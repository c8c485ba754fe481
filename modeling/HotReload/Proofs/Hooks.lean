import HotReload.Proofs.Climbing
import HotReload.Proofs.Growth
import HotReload.Proofs.Sweeping

/-! # Sweeps of the managed image

Objects keep their class while code runs, and descriptors stay. What a hook can change in the graph
is what fields hold, and what is declared by the classes that a later module registers under the
name of a superclass. Where it changes neither, a sweep is exact.
-/

namespace HotReload.Managed

def Instances (w w' : Process) : Prop :=
  ∀ o i, w.instance? o = some i → ∃ i', w'.instance? o = some i' ∧ i'.cls = i.cls

theorem instances_of_objects {w w' : Process} (h : w'.objects = w.objects) : Instances w w' := by
  intro o i hi
  refine ⟨i, ?_, rfl⟩
  rw [← hi]
  simp only [World.instance?, h]

theorem instances_setField (w : Process) (o : ObjectId) (name : String) (v : Datum) :
    Instances w (w.setField o name v) := by
  rintro ⟨number⟩ i hi
  cases number with
  | zero => simp [World.instance?] at hi
  | succ n =>
    simp only [World.instance?] at hi
    refine ⟨if o.number = n + 1 then { i with fields := Instance.setField name v i.fields } else i,
      ?_, by split <;> rfl⟩
    obtain ⟨number⟩ := o
    cases number with
    | zero => simpa [World.setField, World.instance?] using hi
    | succ m =>
      simp only [World.setField, World.instance?, Array.getElem?_modify, hi]
      by_cases hm : m = n <;> simp [hm]

theorem instances_push (w : Process) (i : Instance) :
    Instances w { w with objects := w.objects.push i } := by
  rintro ⟨number⟩ j hj
  cases number with
  | zero => simp [World.instance?] at hj
  | succ n =>
    simp only [World.instance?] at hj
    have hn : n < w.objects.size := (Array.getElem?_eq_some_iff.1 hj).1
    refine ⟨j, ?_, rfl⟩
    simp only [World.instance?]
    rwa [Array.getElem?_push_lt hn, ← Array.getElem?_eq_getElem hn]

theorem instances_kept : Kept Instances where
  refl _ := instances_of_objects rfl
  trans h h' := by
    intro o i hi
    obtain ⟨i', hi', hc⟩ := h o i hi
    obtain ⟨i'', hi'', hc'⟩ := h' o i' hi'
    exact ⟨i'', hi'', hc'.trans hc⟩
  setField := instances_setField
  write _ _ := instances_of_objects rfl
  count _ _ := instances_of_objects rfl
  specialize h := by
    rcases specialize_cases h with rfl | ⟨k, _, _, rfl | ⟨r, rfl⟩⟩ <;>
      exact instances_of_objects rfl
  load h := by
    rw [load_eq h]
    exact instances_of_objects rfl
  create h := by
    obtain ⟨i, _, rfl⟩ := create_eq h
    exact instances_push _ i

def Instantiated (w : Process) : Prop := ∀ i ∈ w.objects, (w.image.class? i.cls).isSome = true

/-- Whatever is sent, the hook changes no field. -/
def KeepsFields (rules : SweepRules) (w : Process) : Prop :=
  ∀ w', view.Sent rules w w' → ∀ o, w.Has o → w'.fields o = w.fields o

/-- Whatever is sent, the hook changes neither the chain of an object's classes nor what the
classes of the chain declare. -/
def KeepsClasses (rules : SweepRules) (w : Process) : Prop :=
  ∀ w', view.Sent rules w w' → ∀ o, w.Has o →
    classChain w' o = classChain w o ∧
      ∀ c ∈ classChain w o, declaredFields w' o c = declaredFields w o c

theorem sent_keeps {R : Process → Process → Prop} (h : Kept R) {rules : SweepRules} {w w' : Process}
    (hs : view.Sent rules w w') : R w w' := by
  induction hs with
  | start => exact h.refl w
  | send _ _ _ ih => exact h.trans ih (h.notify _ _ _)

theorem ownClass?_of_sent {rules : SweepRules} {w w' : Process} (hs : view.Sent rules w w')
    (hw : Instantiated w) {o : ObjectId} (ho : w.Has o) : ownClass? w' o = ownClass? w o := by
  obtain ⟨i, hio⟩ := Option.isSome_iff_exists.1 ho
  obtain ⟨i', hio', hcls⟩ := sent_keeps instances_kept hs o i hio
  obtain ⟨k, hk⟩ := Option.isSome_iff_exists.1 (hw i (World.mem_of_instance? hio))
  rw [ownClass?, ownClass?, hio', hio, Option.bind_some, Option.bind_some, hcls, hk]
  exact (sent_keeps registers_kept hs).class? hk

/-- A hook may load modules whose classes are no superclasses of those that are there. -/
theorem keepsClasses_of_superclass_ne {rules : SweepRules} {w : Process} (hw : Instantiated w)
    (hnew : ∀ w', view.Sent rules w w' → ∀ k ∈ w.image.classes,
      ∀ l ∈ w'.image.classes.drop w.image.classes.length, k.info.superclass ≠ some l.info.name) :
    KeepsClasses rules w := by
  intro w' hs o ho
  obtain ⟨more, hmore⟩ := sent_keeps registers_kept hs
  have hsuperclass := hnew w' hs
  rw [← hmore, List.drop_left] at hsuperclass
  exact classChain_append hmore.symm (ownClass?_of_sent hs hw ho) hsuperclass

/-- Names and introspection of objects do not change, whatever the hook does. -/
theorem quiet {rules : SweepRules} {w : Process} (hw : Instantiated w)
    (hfields : KeepsFields rules w) (hclasses : KeepsClasses rules w) : view.Quiet rules w := by
  intro w' hs
  have hclass (o : ObjectId) (ho : w.Has o) : ownClass? w' o = ownClass? w o :=
    ownClass?_of_sent hs hw ho
  constructor
  · exact hfields w' hs
  · intro o ho
    simp only [view, className, hclass o ho]
  · intro o ho
    simp only [view, hclass o ho]
  · exact fun o ho => (hclasses w' hs o ho).1
  · exact fun o ho => (hclasses w' hs o ho).2

/-- What a sweep over a graph does, given the objects that it enters, the last one first, and those
that are told, the first one first. -/
structure Swept (rules : SweepRules) (w : Process) (roots : List Datum) (report : SweepReport)
    (w' : Process) (entered told : List ObjectId) : Prop where
  /-- The walk ends by itself, however much deeper it might go. -/
  ends : ∀ depth, w.walkDepth (roots.map .value) ≤ depth →
    Walk.each (Walk.visit view rules depth) (roots.map .value) { world := w } =
      ⟨w', entered.map .managed, report⟩
  entered_nodup : entered.Nodup
  mem_entered : ∀ o, o ∈ entered ↔ view.Reaches rules w (roots.flatMap Value.references) o
  told_nodup : told.Nodup
  mem_told : ∀ o, o ∈ told ↔
    o ∈ entered ∧ view.isExcluded rules w o = false ∧ view.isChanged rules w o = true
  delivered : (report.notified, w') = view.deliver rules.hook told (0, w)
  visited : report.visited = entered.countP fun o => !view.isExcluded rules w o
  excluded : report.excluded = entered.countP (view.isExcluded rules w)

/-- A sweep enters what the roots lead to, and tells what it enters, is not excluded and has
changed, all of it once. -/
theorem sweep_exact {w : Process} {rules : SweepRules} {roots : List Datum} (hroots : roots ≠ [])
    (hgraph : w.IsGraph roots) (hw : Instantiated w) (hfields : KeepsFields rules w)
    (hclasses : KeepsClasses rules w) :
    ∃ report w' entered told,
      HotReload.sweep view rules (roots.map .value) w = .ok (report, w') ∧
        Swept rules w roots report w' entered told := by
  obtain ⟨entered, told, h⟩ := Walk.each_visit hgraph (quiet hw hfields hclasses)
  obtain ⟨hvisits, _⟩ := h _ (Nat.le_refl _)
  generalize hs : Walk.each (Walk.visit view rules (w.walkDepth (roots.map .value)))
    (roots.map .value) { world := w } = s at hvisits h
  have hseen : s.seen = entered.map .managed := by
    rw [hvisits.seen, List.append_nil]
  refine ⟨s.report, s.world, entered, told, ?_, ?_⟩
  · have hne : (roots.map Node.value).isEmpty = false := by simpa using hroots
    simp only [HotReload.sweep, hne, Bool.false_eq_true, if_false, hs]
  · constructor
    · intro depth hdepth
      rw [(h depth hdepth).2, ← hseen]
    · exact hvisits.nodup
    · exact hvisits.mem_entered rfl
    · exact hvisits.changed.nodup_iff.2 (hvisits.nodup.filter _)
    · intro o
      rw [hvisits.changed.mem_iff, List.mem_filter, Bool.and_eq_true, Bool.not_eq_true']
    · exact hvisits.delivered
    · rw [hvisits.visited, Nat.zero_add]
    · rw [hvisits.excluded, Nat.zero_add]

section Graph

def traceModule : ModuleSpec Body :=
  { name := "Traces", classes := [{ name := "Trace", fields := ["items", "child"] }] }

/-- A node answers the hook by loading a class that nothing in the graph is of, a view declares its
references, and a cache is excluded. -/
def graphModule : ModuleSpec Body :=
  { name := "Graph"
    functions := [⟨"Node.injected", .method, .sequence [.load traceModule, .log .receiver]⟩]
    classes := [
      { name := "Node", selectors := [("injected", "Node.injected")] },
      { name := "View", superclass := some "Object", isLegacy := true, fields := ["child"] },
      { name := "Cache" },
      { name := "Object", fields := ["framework"] }] }

/-- The first node leads to itself and to the view, and the view to the cache. The second node hangs
from what is not followed. -/
def graph : Process :=
  { image := ((ManagedImage.empty false).link graphModule).2
    objects := #[
      ⟨⟨0⟩, [("items", .list [.object ⟨2⟩, .map [("self", .object ⟨1⟩)]]), ("isa", .object ⟨4⟩)]⟩,
      ⟨⟨1⟩, [("child", .object ⟨3⟩), ("framework", .object ⟨4⟩)]⟩,
      ⟨⟨2⟩, [("held", .object ⟨4⟩)]⟩,
      ⟨⟨0⟩, []⟩] }

def graphRules : SweepRules :=
  { excludes := (· == "Cache"), frameworkRoots := ["Object"], readers := [], modified := ["Node"],
    hook := "injected" }

/-- The hook leaves the objects alone and registers one more class. -/
theorem notify_node {w' : Process} (hobjects : w'.objects = graph.objects)
    (hr : Registers graph w') (hg : Grows graph w') {o : ObjectId} (ho : o = ⟨1⟩ ∨ o = ⟨4⟩) :
    (notify w' o "injected").2.objects = w'.objects ∧
      ∃ k : LinkedClass, k.info.name = "Trace" ∧
        (notify w' o "injected").2.image.classes = w'.image.classes ++ [k] := by
  obtain ⟨⟨modules, classes, staged, nextAddress, hasHook, recorder⟩, objects⟩ := w'
  obtain ⟨moreClasses, rfl⟩ := hr
  obtain ⟨moreModules, rfl⟩ := hg
  obtain rfl : objects = graph.objects := hobjects
  rcases ho with rfl | rfl
  · exact ⟨rfl, _, rfl, rfl⟩
  · exact ⟨rfl, _, rfl, rfl⟩

theorem sent_graph {w' : Process} (h : view.Sent graphRules graph w') :
    w'.objects = graph.objects ∧
      ∃ more, w'.image.classes = graph.image.classes ++ more ∧
        ∀ l ∈ more, l.info.name = "Trace" := by
  induction h with
  | start => exact ⟨rfl, [], (List.append_nil _).symm, by simp⟩
  | @send w' o hs ho hc ih =>
    have hnodes : ∀ o ∈ graph.ids, view.isChanged graphRules graph o = true →
        o = ⟨1⟩ ∨ o = ⟨4⟩ := by decide
    obtain ⟨hobjects, more, hmore, hnames⟩ := ih
    obtain ⟨hkept, k, hk, hclasses⟩ := notify_node hobjects (sent_keeps registers_kept hs)
      (sent_keeps grows_held.toKept hs) (hnodes o ho.mem_ids hc)
    refine ⟨hkept.trans hobjects, more ++ [k], ?_, ?_⟩
    · exact hclasses.trans (by rw [hmore, List.append_assoc])
    · simpa [or_imp, forall_and, hk] using hnames

theorem sweep_exact_graph : ∃ w' entered told,
    HotReload.sweep view graphRules [.value (.object ⟨1⟩)] graph = .ok (⟨2, 1, 1⟩, w') ∧
      Swept graphRules graph [.object ⟨1⟩] ⟨2, 1, 1⟩ w' entered told := by
  have hinstantiated : Instantiated graph := by
    unfold Instantiated
    decide
  have hfields : KeepsFields graphRules graph := by
    intro w' hs o _
    simp only [World.fields, World.instance?, (sent_graph hs).1]
  have hclasses : KeepsClasses graphRules graph := by
    refine keepsClasses_of_superclass_ne hinstantiated fun w' hs k hk l hl => ?_
    obtain ⟨-, more, hmore, hnames⟩ := sent_graph hs
    rw [hmore, List.drop_left] at hl
    have hsuperclasses : ∀ k ∈ graph.image.classes, k.info.superclass ≠ some "Trace" := by decide
    rw [hnames l hl]
    exact hsuperclasses k hk
  have hgraph : graph.IsGraph [.object ⟨1⟩] := ⟨by decide, by decide⟩
  obtain ⟨report, w', entered, told, hsweep, hswept⟩ :=
    sweep_exact (by simp) hgraph hinstantiated hfields hclasses
  have hreport : (HotReload.sweep view graphRules [.value (.object ⟨1⟩)] graph).toOption.map (·.1) =
      some ⟨2, 1, 1⟩ := by
    decide +kernel
  rw [List.map_singleton] at hsweep
  rw [hsweep] at hreport
  obtain rfl : report = ⟨2, 1, 1⟩ := Option.some.inj hreport
  exact ⟨w', entered, told, hsweep, hswept⟩

end Graph

section Loading

def baseModule : ModuleSpec Body :=
  { name := "Bases", classes := [{ name := "Base", fields := ["child"] }] }

/-- A plain object answers the hook by loading the superclass of the views. -/
def viewModule : ModuleSpec Body :=
  { name := "Views"
    functions := [⟨"Plain.injected", .method, .load baseModule⟩]
    classes := [
      { name := "Plain", selectors := [("injected", "Plain.injected")] },
      { name := "View", superclass := some "Base", isLegacy := true },
      { name := "Leaf" }] }

def views : Process :=
  { image := ((ManagedImage.empty false).link viewModule).2
    objects := #[⟨⟨0⟩, []⟩, ⟨⟨1⟩, [("child", .object ⟨3⟩)]⟩, ⟨⟨2⟩, []⟩] }

def viewRules : SweepRules :=
  { excludes := fun _ => false, frameworkRoots := [], readers := [], modified := ["Plain"],
    hook := "injected" }

/-- The hook loads a module, which leaves the objects alone. -/
theorem objects_notify {w' : Process} (ho : w'.objects = views.objects) (hr : Registers views w')
    (hg : Grows views w') : (notify w' ⟨1⟩ "injected").2.objects = w'.objects := by
  obtain ⟨⟨modules, classes, staged, nextAddress, hasHook, recorder⟩, objects⟩ := w'
  obtain ⟨moreClasses, rfl⟩ := hr
  obtain ⟨moreModules, rfl⟩ := hg
  obtain rfl : objects = views.objects := ho
  rfl

theorem objects_of_sent {w' : Process} (h : view.Sent viewRules views w') :
    w'.objects = views.objects := by
  induction h with
  | start => rfl
  | @send w' o hs ho hc ih =>
    have hplain : ∀ o ∈ views.ids, view.isChanged viewRules views o = true → o = ⟨1⟩ := by decide
    obtain rfl := hplain o ho.mem_ids hc
    exact (objects_notify ih (sent_keeps registers_kept hs)
      (sent_keeps grows_held.toKept hs)).trans ih

/-- A hook that changes no field can still change what a sweep enters, by loading a class that
declares fields of objects that are there. -/
theorem not_sweep_exact_of_keepsFields :
    ¬∀ (w : Process) (rules : SweepRules) (roots : List Datum), roots ≠ [] → w.IsGraph roots →
      Instantiated w → KeepsFields rules w → ∃ report w' entered told,
        HotReload.sweep view rules (roots.map .value) w = .ok (report, w') ∧
          Swept rules w roots report w' entered told := by
  intro h
  have hfields : KeepsFields viewRules views := by
    intro w' hs o _
    simp only [World.fields, World.instance?, objects_of_sent hs]
  have hinstantiated : Instantiated views := by
    unfold Instantiated
    decide
  obtain ⟨report, w', entered, told, _, hswept⟩ :=
    h views viewRules [.object ⟨1⟩, .object ⟨2⟩] (by simp) ⟨by decide, by decide⟩ hinstantiated
      hfields
  have hleaf : ObjectIdentity.managed ⟨3⟩ ∈ (Walk.each (Walk.visit view viewRules
      (views.walkDepth [.value (.object ⟨1⟩), .value (.object ⟨2⟩)]))
      [.value (.object ⟨1⟩), .value (.object ⟨2⟩)] { world := views }).seen := by
    decide +kernel
  have hends := hswept.ends _ (Nat.le_refl _)
  simp only [List.map_cons, List.map_nil] at hends
  rw [hends] at hleaf
  have hin : ⟨3⟩ ∈ entered := by simpa using hleaf
  have hreaches := (hswept.mem_entered ⟨3⟩).1 hin
  have honly : ∀ o, view.Reaches viewRules views [⟨1⟩, ⟨2⟩] o → o = ⟨1⟩ ∨ o = ⟨2⟩ := by
    intro o ho
    induction ho with
    | start hp => simpa using hp
    | follow _ hf ih =>
      have hnone : ∀ p ∈ [(⟨1⟩ : ObjectId), ⟨2⟩],
          (view.followed viewRules views p).flatMap Value.references = [] := by decide
      rw [ObjectView.Follows, hnone _ (by simpa using ih)] at hf
      simp at hf
  simpa using honly _ hreaches

end Loading

end HotReload.Managed

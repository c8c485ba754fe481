import HotReload.Proofs.Reaching

/-! # What a sweep does

A walk enters exactly the objects that its starts lead to and that were not seen before, and sends
the hook once to those of a changed type, as long as hooks leave the graph alone. The weight of the
objects that are not seen yet bounds how deep it goes.
-/

namespace HotReload

namespace ObjectView

variable {ι : Type} (v : ObjectView ι) (rules : SweepRules) (w : World ι)

/-- The objects of a world look the same in another one. -/
structure Agrees (w' : World ι) : Prop where
  fields : ∀ o, w.Has o → w'.fields o = w.fields o
  className : ∀ o, w.Has o → v.className w' o = v.className w o
  introspects : ∀ o, w.Has o → v.introspects w' o = v.introspects w o
  chain : ∀ o, w.Has o → v.chain w' o = v.chain w o
  declared : ∀ o, w.Has o → ∀ c ∈ v.chain w o, v.declared w' o c = v.declared w o c

def isExcluded (o : ObjectId) : Bool := rules.excludes (v.className w o)

def isChanged (o : ObjectId) : Bool := rules.isModified (v.className w o)

/-- The worlds that come of sending the hook to objects of changed types. -/
inductive Sent : World ι → Prop where
  | start : Sent w
  | send {w' : World ι} {o : ObjectId} : Sent w' → w.Has o → v.isChanged rules w o = true →
    Sent (v.notify w' o rules.hook).2

/-- Hooks leave the graph alone. -/
def Quiet : Prop := ∀ w', v.Sent rules w w' → v.Agrees w w'

/-- Sends the hook to one object and counts it if it answers. -/
def deliverOne (hook : String) (acc : Nat × World ι) (o : ObjectId) : Nat × World ι :=
  let (answered, w) := v.notify acc.2 o hook
  (if answered then acc.1 + 1 else acc.1, w)

def deliver (hook : String) (os : List ObjectId) (acc : Nat × World ι) : Nat × World ι :=
  os.foldl (v.deliverOne hook) acc

variable {v rules w}

theorem deliver_append (hook : String) (os os' : List ObjectId) (acc : Nat × World ι) :
    v.deliver hook (os ++ os') acc = v.deliver hook os' (v.deliver hook os acc) :=
  List.foldl_append

theorem Sent.deliver {os : List ObjectId} {acc : Nat × World ι}
    (hos : ∀ o ∈ os, w.Has o ∧ v.isChanged rules w o = true) (h : v.Sent rules w acc.2) :
    v.Sent rules w (v.deliver rules.hook os acc).2 := by
  induction os generalizing acc with
  | nil => exact h
  | cons o os ih =>
    obtain ⟨ho, hc⟩ := hos o List.mem_cons_self
    exact ih (fun p hp => hos p (List.mem_cons_of_mem o hp)) (.send h ho hc)

end ObjectView

namespace Walk

variable {ι : Type} (v : ObjectView ι) (rules : SweepRules) (w : World ι)

/-- What a walk from some starts does: the objects that it enters, the last one first, and those
that are told, the first one first. -/
structure Visits (starts : List ObjectId) (s s' : Walk ι) (entered told : List ObjectId) :
    Prop where
  seen : s'.seen = entered.map .managed ++ s.seen
  fresh : ∀ o ∈ entered, .managed o ∉ s.seen
  nodup : entered.Nodup
  covered : ∀ o ∈ starts, .managed o ∈ s'.seen
  closed : ∀ o ∈ entered, ∀ p, v.Follows rules w o p → .managed p ∈ s'.seen
  reached : ∀ o ∈ entered, v.Reaches rules w starts o
  changed : told.Perm (entered.filter fun o => !v.isExcluded rules w o && v.isChanged rules w o)
  delivered : (s'.report.notified, s'.world) =
    v.deliver rules.hook told (s.report.notified, s.world)
  visited : s'.report.visited =
    s.report.visited + entered.countP fun o => !v.isExcluded rules w o
  excluded : s'.report.excluded = s.report.excluded + entered.countP (v.isExcluded rules w)

namespace Visits

variable {v rules w} {starts starts' : List ObjectId} {s s' s'' : Walk ι}
  {entered entered' told told' : List ObjectId}

theorem refl (h : ∀ o ∈ starts, .managed o ∈ s.seen) : Visits v rules w starts s s [] [] where
  seen := rfl
  fresh := by simp
  nodup := List.nodup_nil
  covered := h
  closed := by simp
  reached := by simp
  changed := .refl _
  delivered := rfl
  visited := rfl
  excluded := rfl

theorem mem_seen (h : Visits v rules w starts s s' entered told) {i : ObjectIdentity}
    (hi : i ∈ s.seen) : i ∈ s'.seen := by
  rw [h.seen]
  exact List.mem_append_right _ hi

theorem mem_seen_of_entered (h : Visits v rules w starts s s' entered told) {o : ObjectId}
    (ho : o ∈ entered) : .managed o ∈ s'.seen := by
  rw [h.seen]
  exact List.mem_append_left _ (List.mem_map.2 ⟨o, ho, rfl⟩)

theorem trans (h : Visits v rules w starts s s' entered told)
    (h' : Visits v rules w starts' s' s'' entered' told') :
    Visits v rules w (starts ++ starts') s s'' (entered' ++ entered) (told ++ told') where
  seen := by rw [h'.seen, h.seen, List.map_append, List.append_assoc]
  fresh o ho := by
    rcases List.mem_append.1 ho with ho | ho
    · exact fun hin => h'.fresh o ho (h.mem_seen hin)
    · exact h.fresh o ho
  nodup := by
    refine List.nodup_append.2 ⟨h'.nodup, h.nodup, ?_⟩
    rintro o ho p hp rfl
    exact h'.fresh o ho (h.mem_seen_of_entered hp)
  covered o ho := by
    rcases List.mem_append.1 ho with ho | ho
    · exact h'.mem_seen (h.covered o ho)
    · exact h'.covered o ho
  closed o ho p hp := by
    rcases List.mem_append.1 ho with ho | ho
    · exact h'.closed o ho p hp
    · exact h'.mem_seen (h.closed o ho p hp)
  reached o ho := by
    rcases List.mem_append.1 ho with ho | ho
    · exact (h'.reached o ho).mono fun p hp => List.mem_append_right _ hp
    · exact (h.reached o ho).mono fun p hp => List.mem_append_left _ hp
  changed := by
    rw [List.filter_append]
    exact (h.changed.append h'.changed).trans List.perm_append_comm
  delivered := by rw [h'.delivered, h.delivered, ObjectView.deliver_append]
  visited := by
    rw [h'.visited, h.visited, List.countP_append]
    omega
  excluded := by
    rw [h'.excluded, h.excluded, List.countP_append]
    omega

/-- A walk sends hooks to objects of changed types only. -/
theorem sent_world (h : Visits v rules w starts s s' entered told)
    {roots : List (Value ObjectId)} (hgraph : w.IsGraph roots) (hstarts : ∀ o ∈ starts, w.Has o)
    (hs : v.Sent rules w s.world) : v.Sent rules w s'.world := by
  have hworld : s'.world = (v.deliver rules.hook told (s.report.notified, s.world)).2 :=
    congrArg Prod.snd h.delivered
  rw [hworld]
  apply ObjectView.Sent.deliver _ hs
  intro o ho
  have hin := List.mem_filter.1 (h.changed.subset ho)
  rw [Bool.and_eq_true] at hin
  exact ⟨(h.reached o hin.1).has hgraph hstarts, hin.2.2⟩

theorem unseen_le (h : Visits v rules w starts s s' entered told) :
    w.unseen s'.seen ≤ w.unseen s.seen := World.unseen_le fun _ hi => h.mem_seen hi

end Visits

section Graph

variable {v rules w} {roots : List (Value ObjectId)} {w' : World ι} {o : ObjectId}

/-- What the fields of an object hold that hold instances does not change. -/
theorem fields_eq (hgraph : w.IsGraph roots) (h : v.Agrees w w') (ho : w.Has o) :
    (((Subject.managed o).fields w').filter fun f =>
      !isMetatypeField f.1 (f.2.typeName? v w')).map (·.2) = (v.instances w o).map .value := by
  have hname : ∀ f ∈ w.fields o,
      (Node.value f.2).typeName? v w' = (Node.value f.2).typeName? v w := by
    rintro ⟨label, x⟩ hf
    cases x with
    | object p =>
      have hp : w.Has p := hgraph.has hf (by simp [Value.references])
      simp [Node.typeName?, h.className p hp]
    | _ => rfl
  simp only [Subject.fields, h.fields o ho, ObjectView.instances, List.filter_map, List.map_map]
  congr 1
  apply List.filter_congr
  intro f hf
  simp [hname f hf]

theorem references_eq (h : v.Agrees w w') (ho : w.Has o) {c : String} (hc : c ∈ v.chain w o) :
    (Subject.managed o).references v w' c = (v.references w o c).map .value := by
  simp [Subject.references, ObjectView.references, h.fields o ho, h.declared o ho c hc]

end Graph

section Exact

variable {f g : Node → Walk ι → Walk ι} {bound : Nat} {roots : List (Value ObjectId)}

/-- A way to visit values does what a walk does, and another way does the same, for values and
walks that have no more than the bound to see. -/
def Exact (f g : Node → Walk ι → Walk ι) (bound : Nat) : Prop :=
  ∀ (x : Value ObjectId) (s : Walk ι), v.Sent rules w s.world → (∀ o ∈ x.references, w.Has o) →
    x.size + w.unseen s.seen ≤ bound →
    g (.value x) s = f (.value x) s ∧
      ∃ entered told, Visits v rules w x.references s (f (.value x) s) entered told

/-- The values lead into the graph, and none has more than the bound to see. -/
def Within (bound : Nat) (s : Walk ι) (xs : List (Value ObjectId)) : Prop :=
  ∀ x ∈ xs, (∀ o ∈ x.references, w.Has o) ∧ x.size + w.unseen s.seen ≤ bound

variable {v rules w}

theorem Within.after {starts entered told : List ObjectId} {s s' : Walk ι}
    {xs : List (Value ObjectId)} (h : Within w bound s xs)
    (hv : Visits v rules w starts s s' entered told) : Within w bound s' xs := by
  intro x hx
  obtain ⟨hrefs, hle⟩ := h x hx
  have hu := hv.unseen_le
  exact ⟨hrefs, by omega⟩

theorem each_append (f : Node → Walk ι → Walk ι) (xs ys : List Node) (s : Walk ι) :
    each f (xs ++ ys) s = each f ys (each f xs s) := List.foldl_append

/-- Values are visited one after another. -/
theorem Exact.each (h : Exact v rules w f g bound) (hgraph : w.IsGraph roots)
    (xs : List (Value ObjectId)) {s : Walk ι} (hs : v.Sent rules w s.world)
    (hxs : Within w bound s xs) :
    Walk.each g (xs.map .value) s = Walk.each f (xs.map .value) s ∧
      ∃ entered told, Visits v rules w (xs.flatMap Value.references) s
        (Walk.each f (xs.map .value) s) entered told := by
  induction xs generalizing s with
  | nil => exact ⟨rfl, [], [], .refl (by simp)⟩
  | cons x xs ih =>
    obtain ⟨hrefs, hle⟩ := hxs x List.mem_cons_self
    obtain ⟨heq, entered, told, hx⟩ := h x s hs hrefs hle
    have hrest : Within w bound (f (.value x) s) xs :=
      Within.after (fun y hy => hxs y (List.mem_cons_of_mem x hy)) hx
    obtain ⟨heqs, entered', told', hxs⟩ := ih (hx.sent_world hgraph hrefs hs) hrest
    refine ⟨?_, entered' ++ entered, told ++ told', ?_⟩
    · change Walk.each g (xs.map .value) (g (.value x) s) = _
      rw [heq, heqs]
      rfl
    · rw [List.flatMap_cons]
      exact hx.trans hxs

theorem Exact.left (h : Exact v rules w f g bound) : Exact v rules w f f bound :=
  fun x s hs hrefs hle => ⟨rfl, (h x s hs hrefs hle).2⟩

theorem Exact.right (h : Exact v rules w f g bound) : Exact v rules w g g bound := by
  intro x s hs hrefs hle
  obtain ⟨heq, hx⟩ := h x s hs hrefs hle
  rw [heq]
  exact ⟨rfl, hx⟩

/-- The references that classes of the chain declare are visited as they stand in the world of the
start. -/
theorem Exact.foldl_references (h : Exact v rules w f f bound) (hgraph : w.IsGraph roots)
    (hquiet : v.Quiet rules w) {o : ObjectId} (ho : w.Has o) {cs : List String}
    (hchain : cs ⊆ v.chain w o) {s : Walk ι} (hs : v.Sent rules w s.world)
    (hcs : Within w bound s (cs.flatMap (v.references w o))) :
    cs.foldl (fun s c => Walk.each f ((Subject.managed o).references v s.world c) s) s =
      Walk.each f ((cs.flatMap (v.references w o)).map .value) s := by
  induction cs generalizing s with
  | nil => rfl
  | cons c cs ih =>
    obtain ⟨hc, hrest⟩ := List.cons_subset.1 hchain
    rw [List.flatMap_cons] at hcs ⊢
    have hfirst : Within w bound s (v.references w o c) :=
      fun x hx => hcs x (List.mem_append_left _ hx)
    obtain ⟨_, entered, told, hx⟩ := h.each hgraph _ hs hfirst
    have hrefs : ∀ p ∈ (v.references w o c).flatMap Value.references, w.Has p := by
      intro p hp
      obtain ⟨x, hx, hp⟩ := List.mem_flatMap.1 hp
      exact (hfirst x hx).1 p hp
    have hafter : Within w bound (Walk.each f ((v.references w o c).map .value) s)
        (cs.flatMap (v.references w o)) :=
      Within.after (fun x hx => hcs x (List.mem_append_right _ hx)) hx
    rw [List.foldl_cons, references_eq (hquiet _ hs) ho hc,
      ih hrest (hx.sent_world hgraph hrefs hs) hafter, List.map_append, each_append]

/-- What is visited inside an object that is not excluded. -/
theorem Exact.inside (h : Exact v rules w f f bound) (hgraph : w.IsGraph roots)
    (hquiet : v.Quiet rules w) {o : ObjectId} (ho : w.Has o)
    (hentered : v.isExcluded rules w o = false) {s : Walk ι} (hs : v.Sent rules w s.world)
    (hin : Within w bound s (v.followed rules w o)) :
    (if v.introspects s.world o then throughFields v f (.managed o) s
      else throughReferences v rules f (.managed o) s) =
      Walk.each f ((v.followed rules w o).map .value) s := by
  have hagrees := hquiet _ hs
  simp only [ObjectView.isExcluded] at hentered
  rw [hagrees.introspects o ho]
  simp only [ObjectView.followed, hentered, Bool.false_eq_true, if_false] at hin ⊢
  by_cases hi : v.introspects w o = true
  · simp only [hi, if_true, throughFields]
    rw [fields_eq hgraph hagrees ho]
  · simp only [hi] at hin ⊢
    have hchain : ((Subject.managed o).chain v s.world).takeWhile
        (fun c => !rules.frameworkRoots.contains c) = v.ownClasses rules w o := by
      rw [Subject.chain, hagrees.chain o ho]
      rfl
    rw [throughReferences, hchain]
    exact h.foldl_references hgraph hquiet ho (List.takeWhile_subset _) hs hin

def enter (o : ObjectId) (s : Walk ι) : Walk ι :=
  { s with
    seen := .managed o :: s.seen
    report := { s.report with visited := s.report.visited + 1 } }

theorem Visits.skip {o : ObjectId} {s : Walk ι} (hnew : .managed o ∉ s.seen)
    (hexcluded : v.isExcluded rules w o = true) :
    Visits v rules w [o] s
      { s with
        seen := .managed o :: s.seen
        report := { s.report with excluded := s.report.excluded + 1 } } [o] [] where
  seen := rfl
  fresh := by simpa using hnew
  nodup := List.pairwise_singleton _ o
  covered := by simp
  closed := by
    intro p hp q hq
    obtain rfl := List.mem_singleton.1 hp
    simp only [ObjectView.isExcluded] at hexcluded
    simp [ObjectView.Follows, ObjectView.followed, hexcluded] at hq
  reached p hp := .start hp
  changed := by simp [hexcluded]
  delivered := rfl
  visited := by simp [hexcluded]
  excluded := by simp [hexcluded]

theorem announce_eq (o : ObjectId) (s : Walk ι) :
    Walk.announce v rules (.managed o) (v.className w o) s =
      let done := v.deliver rules.hook (if v.isChanged rules w o then [o] else [])
        (s.report.notified, s.world)
      { s with world := done.2, report := { s.report with notified := done.1 } } := by
  by_cases hc : rules.isModified (v.className w o) = true
  · rw [Walk.announce, ObjectView.isChanged, if_pos hc, if_pos hc]
    rfl
  · rw [Walk.announce, ObjectView.isChanged, if_neg hc, if_neg hc]
    rfl

/-- An object that is entered is told after everything in it was visited. -/
theorem Visits.announce {o : ObjectId} {s s' : Walk ι} {entered told : List ObjectId}
    (hnew : .managed o ∉ s.seen) (hentered : v.isExcluded rules w o = false)
    (h : Visits v rules w ((v.followed rules w o).flatMap Value.references) (enter o s) s'
      entered told) :
    Visits v rules w [o] s (Walk.announce v rules (.managed o) (v.className w o) s')
      (entered ++ [o]) (told ++ if v.isChanged rules w o then [o] else []) := by
  have hin : .managed o ∈ s'.seen := h.mem_seen List.mem_cons_self
  rw [announce_eq]
  constructor
  · change s'.seen = _
    rw [h.seen, List.map_append, List.append_assoc]
    rfl
  · intro p hp
    rcases List.mem_append.1 hp with hp | hp
    · exact fun hs => h.fresh p hp (List.mem_cons_of_mem _ hs)
    · rwa [List.mem_singleton.1 hp]
  · refine List.nodup_append.2 ⟨h.nodup, List.pairwise_singleton _ o, ?_⟩
    rintro p hp q hq rfl
    obtain rfl := List.mem_singleton.1 hq
    exact h.fresh p hp List.mem_cons_self
  · intro p hp
    rwa [List.mem_singleton.1 hp]
  · intro p hp q hq
    rcases List.mem_append.1 hp with hp | hp
    · exact h.closed p hp q hq
    · rw [List.mem_singleton.1 hp] at hq
      exact h.covered q hq
  · intro p hp
    rcases List.mem_append.1 hp with hp | hp
    · refine (h.reached p hp).trans fun q hq => ?_
      exact .follow (.start List.mem_cons_self) hq
    · exact .start hp
  · rw [List.filter_append]
    refine h.changed.append ?_
    cases hc : v.isChanged rules w o <;> simp [hentered, hc]
  · rw [ObjectView.deliver_append, h.delivered]
    rfl
  · change s'.report.visited = _
    rw [h.visited, List.countP_append, enter]
    simp [hentered]
    omega
  · change s'.report.excluded = _
    rw [h.excluded, List.countP_append, enter]
    simp [hentered]

/-- Entering an object leaves less to see than there was. -/
theorem within_enter (hgraph : w.IsGraph roots) {o : ObjectId} (ho : w.Has o) {s : Walk ι}
    (hnew : .managed o ∉ s.seen) (hle : w.unseen s.seen ≤ bound) :
    Within w bound (enter o s) (v.followed rules w o) := by
  intro x hx
  obtain ⟨field, hf, rfl⟩ := ObjectView.mem_fields_of_followed hx
  have hsize := World.size_lt_weight hf
  have hunseen := World.weight_add_unseen ho hnew
  refine ⟨fun p hp => hgraph.has hf hp, ?_⟩
  simp only [enter]
  omega

section Object

variable {o : ObjectId} {s : Walk ι}

theorem visitObject_of_seen (f : Node → Walk ι → Walk ι) (h : .managed o ∈ s.seen) :
    visitObject v rules f (.managed o) s = s := by
  simp [visitObject, Subject.identity, h]

theorem visitObject_of_excluded (f : Node → Walk ι → Walk ι) (hagrees : v.Agrees w s.world)
    (ho : w.Has o) (hnew : .managed o ∉ s.seen) (h : v.isExcluded rules w o = true) :
    visitObject v rules f (.managed o) s =
      { s with
        seen := .managed o :: s.seen
        report := { s.report with excluded := s.report.excluded + 1 } } := by
  have hname := hagrees.className o ho
  simp only [ObjectView.isExcluded] at h
  simp [visitObject, Subject.identity, Subject.className, hnew, hname, h]

theorem visitObject_of_entered (f : Node → Walk ι → Walk ι) (hagrees : v.Agrees w s.world)
    (ho : w.Has o) (hnew : .managed o ∉ s.seen) (h : v.isExcluded rules w o = false) :
    visitObject v rules f (.managed o) s =
      Walk.announce v rules (.managed o) (v.className w o)
        (if v.introspects s.world o then throughFields v f (.managed o) (enter o s)
          else throughReferences v rules f (.managed o) (enter o s)) := by
  have hname := hagrees.className o ho
  simp only [ObjectView.isExcluded] at h
  simp only [visitObject, Subject.identity, Subject.className, Subject.introspects, hnew, hname, h,
    if_false, Bool.false_eq_true]
  rfl

end Object

theorem Exact.visitObject (h : Exact v rules w f g bound) (hgraph : w.IsGraph roots)
    (hquiet : v.Quiet rules w) {o : ObjectId} (ho : w.Has o) {s : Walk ι}
    (hs : v.Sent rules w s.world) (hle : w.unseen s.seen ≤ bound) :
    Walk.visitObject v rules g (.managed o) s = Walk.visitObject v rules f (.managed o) s ∧
      ∃ entered told, Visits v rules w [o] s (Walk.visitObject v rules f (.managed o) s)
        entered told := by
  have hagrees := hquiet _ hs
  by_cases hseen : .managed o ∈ s.seen
  · rw [visitObject_of_seen f hseen, visitObject_of_seen g hseen]
    exact ⟨rfl, [], [], .refl (by simpa using hseen)⟩
  · cases hexcluded : v.isExcluded rules w o with
    | true =>
      rw [visitObject_of_excluded f hagrees ho hseen hexcluded,
        visitObject_of_excluded g hagrees ho hseen hexcluded]
      exact ⟨rfl, [o], [], .skip hseen hexcluded⟩
    | false =>
      have hin : Within w bound (enter o s) (v.followed rules w o) :=
        within_enter hgraph ho hseen hle
      have hf := h.left.inside hgraph hquiet ho hexcluded (s := enter o s) hs hin
      have hg := h.right.inside hgraph hquiet ho hexcluded (s := enter o s) hs hin
      obtain ⟨heq, entered, told, hv⟩ := h.each hgraph _ (s := enter o s) hs hin
      rw [visitObject_of_entered f hagrees ho hseen hexcluded,
        visitObject_of_entered g hagrees ho hseen hexcluded]
      rw [← hf] at hv
      refine ⟨congrArg _ (hg.trans (heq.trans hf.symm)), _, _, hv.announce hseen hexcluded⟩

theorem visit_list (visitDepth : Nat) (items : List (Value ObjectId)) (s : Walk ι) :
    visit v rules (visitDepth + 1) (.value (.list items)) s =
      Walk.each (visit v rules visitDepth) (items.map .value) s := by
  simp [visit, Node.shape, entered, Node.children, Function.comp_def]

theorem visit_map (visitDepth : Nat) (entries : List (String × Value ObjectId)) (s : Walk ι) :
    visit v rules (visitDepth + 1) (.value (.map entries)) s =
      Walk.each (visit v rules visitDepth) ((entries.map (·.2)).map .value) s := by
  have h : entered v s.world (.value (.map entries)) = (entries.map (·.2)).map .value := by
    simp only [entered, Node.shape, Node.children]
    induction entries with
    | nil => rfl
    | cons e es ih => simpa using ih
  simp [visit, Node.shape, h]

/-- A walk that is deep enough for what it has to see is exact, and one that is deeper is no
different. -/
theorem visit_exact (hgraph : w.IsGraph roots) (hquiet : v.Quiet rules w) (depth : Nat) :
    Exact v rules w (visit v rules depth) (visit v rules (depth + 1)) depth := by
  induction depth with
  | zero =>
    intro x s _ _ hle
    cases x <;> simp [Value.size] at hle
  | succ depth ih =>
    intro x s hs hrefs hle
    cases x with
    | list items =>
      rw [visit_list, visit_list, Value.references, Value.referencesOfItems_eq]
      refine ih.each hgraph items hs fun y hy => ⟨fun o ho => hrefs o ?_, ?_⟩
      · rw [Value.references, Value.referencesOfItems_eq]
        exact List.mem_flatMap.2 ⟨y, hy, ho⟩
      · have hsize := Value.size_le_sizeItems hy
        rw [Value.size] at hle
        omega
    | map entries =>
      rw [visit_map, visit_map, Value.references, Value.referencesOfEntries_eq]
      refine ih.each hgraph _ hs fun y hy => ⟨fun o ho => hrefs o ?_, ?_⟩
      · rw [Value.references, Value.referencesOfEntries_eq]
        exact List.mem_flatMap.2 ⟨y, hy, ho⟩
      · have hsize := Value.size_le_sizeEntries hy
        rw [Value.size] at hle
        omega
    | object o =>
      have ho : w.Has o := hrefs o (by simp [Value.references])
      have hunseen : w.unseen s.seen ≤ depth := by
        simp only [Value.size] at hle
        omega
      exact ih.visitObject hgraph hquiet ho hs hunseen
    | _ => exact ⟨rfl, [], [], .refl (by simp [Value.references])⟩

/-- From a walk that has seen nothing, what is entered is what the starts lead to. -/
theorem Visits.mem_entered {starts entered told : List ObjectId} {s s' : Walk ι}
    (h : Visits v rules w starts s s' entered told) (hs : s.seen = []) (o : ObjectId) :
    o ∈ entered ↔ v.Reaches rules w starts o := by
  have hseen (p : ObjectId) : .managed p ∈ s'.seen ↔ p ∈ entered := by
    simp [h.seen, hs]
  refine ⟨h.reached o, fun ho => ?_⟩
  induction ho with
  | start hp => exact (hseen _).1 (h.covered _ hp)
  | follow _ hf ih => exact (hseen _).1 (h.closed _ ih _ hf)

/-- The walk over the roots of a graph, at every depth from the one that it is given. -/
theorem each_visit (hgraph : w.IsGraph roots) (hquiet : v.Quiet rules w) :
    ∃ entered told, ∀ depth, w.walkDepth (roots.map .value) ≤ depth →
      Visits v rules w (roots.flatMap Value.references) { world := w }
        (Walk.each (visit v rules depth) (roots.map .value) { world := w }) entered told ∧
      Walk.each (visit v rules depth) (roots.map .value) { world := w } =
        Walk.each (visit v rules (w.walkDepth (roots.map .value))) (roots.map .value)
          { world := w } := by
  have hwithin (depth : Nat) (hdepth : w.walkDepth (roots.map .value) ≤ depth) :
      Within w depth { world := w } roots := by
    intro r hr
    have hsize := World.size_add_unseen_le_walkDepth w hr
    exact ⟨hgraph.roots r hr, Nat.le_trans hsize hdepth⟩
  have hstep (depth : Nat) (hdepth : w.walkDepth (roots.map .value) ≤ depth) :=
    (visit_exact hgraph hquiet depth).each hgraph roots (s := { world := w }) .start
      (hwithin depth hdepth)
  obtain ⟨_, entered, told, hvisits⟩ := hstep _ (Nat.le_refl _)
  refine ⟨entered, told, fun depth hdepth => ?_⟩
  have heq : Walk.each (visit v rules depth) (roots.map .value) { world := w } =
      Walk.each (visit v rules (w.walkDepth (roots.map .value))) (roots.map .value)
        { world := w } := by
    induction depth, hdepth using Nat.le_induction with
    | base => rfl
    | succ depth hdepth ih => rw [(hstep depth hdepth).1, ih]
  rw [heq]
  exact ⟨hvisits, rfl⟩

end Exact

end Walk

end HotReload

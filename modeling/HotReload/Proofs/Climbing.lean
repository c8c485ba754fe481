import HotReload.Proofs.Linking
import HotReload.Proofs.Walking
import Mathlib.Data.List.Nodup
import Mathlib.Data.List.Perm.Subperm

/-! # Climbing to superclasses

Superclasses are given by name, and a name means its newest descriptor, so descriptors may name
themselves or each other in a circle. A climb lists no name twice and there are finitely many, so it
ends, and it ends only where there is nothing new above. A sweep that cannot see the fields of an
object follows those that the classes of the climb declare.
-/

namespace HotReload

open Managed (Command Process newestClass? ownClass? classChain climb declaredFields view)

theorem mem_takeWhile_iff {α : Type} {p : α → Bool} {l : List α} {a : α} :
    a ∈ l.takeWhile p ↔
      ∃ before after, l = before ++ a :: after ∧ ∀ x ∈ before ++ [a], p x = true := by
  constructor
  · intro ha
    obtain ⟨before, after, hsplit⟩ := List.append_of_mem ha
    refine ⟨before, after ++ l.dropWhile p, ?_, fun x hx => ?_⟩
    · rw [← List.cons_append, ← List.append_assoc, ← hsplit, List.takeWhile_append_dropWhile]
    · have hall : (l.takeWhile p).all p = true := List.all_takeWhile
      rw [hsplit, List.append_cons] at hall
      exact List.all_eq_true.1 hall x (List.mem_append_left _ hx)
  · rintro ⟨before, after, rfl, hbefore⟩
    rw [List.append_cons, List.takeWhile_append_of_pos hbefore]
    simp

namespace ManagedImage

def IsNewest (image : ManagedImage) (name : String) (k : LinkedClass) : Prop :=
  k.info.name = name ∧ ∃ before after, image.classes = before ++ k :: after ∧
    ∀ l ∈ after, l.info.name ≠ name

/-- A climb from a class: no name comes twice, next is always the newest descriptor of the
superclass, and the last class has no superclass, or one that is unknown or was passed before. -/
structure Climbed (image : ManagedImage) (start : Option LinkedClass) (ks : List LinkedClass) :
    Prop where
  head : ks.head? = start
  nodup : (ks.map (·.info.name)).Nodup
  above : ks.IsChain fun k l => ∃ name, k.info.superclass = some name ∧ image.IsNewest name l
  top : ∀ k ∈ ks.getLast?, k.info.superclass = none ∨ ∃ name, k.info.superclass = some name ∧
    ((∀ l ∈ image.classes, l.info.name ≠ name) ∨ name ∈ ks.map (·.info.name))

variable {image : ManagedImage} {name : String} {k : LinkedClass}

theorem newestClass?_eq (image : ManagedImage) (name : String) :
    newestClass? image name = image.classes.reverse.find? (·.info.name == name) := by
  have hfst : image.classes.reverse.find? (·.info.name == name) =
      (image.classes.zipIdx.reverse.find? fun e => e.1.info.name == name).map (·.1) := by
    rw [← image.classes.zipIdx_map_fst 0, ← List.map_reverse, List.find?_map, List.zipIdx_map_fst]
    rfl
  rw [hfst, newestClass?, latestClass?, classIdsWhere, List.getLast?_map, List.getLast?_filter]
  cases hfound : image.classes.zipIdx.reverse.find? fun e => e.1.info.name == name with
  | none => rfl
  | some e =>
    have he := List.mem_reverse.1 (List.mem_of_find?_eq_some hfound)
    exact List.mem_zipIdx_iff_getElem?.1 he

theorem newestClass?_eq_some_iff : newestClass? image name = some k ↔ image.IsNewest name k := by
  simp only [newestClass?_eq, find?_reverse_eq_some_iff, beq_iff_eq, IsNewest]

theorem newestClass?_eq_none_iff :
    newestClass? image name = none ↔ ∀ k ∈ image.classes, k.info.name ≠ name := by
  simp [newestClass?_eq]

theorem mem_of_newestClass? (h : newestClass? image name = some k) : k ∈ image.classes := by
  rw [newestClass?_eq] at h
  exact List.mem_reverse.1 (List.mem_of_find?_eq_some h)

theorem newestClass?_append {image' : ManagedImage} {more : List LinkedClass}
    (hmore : image'.classes = image.classes ++ more) (hname : ∀ l ∈ more, l.info.name ≠ name) :
    newestClass? image' name = newestClass? image name := by
  have hnone : more.reverse.find? (·.info.name == name) = none := by simpa using hname
  rw [newestClass?_eq, newestClass?_eq, hmore, List.reverse_append, List.find?_append, hnone,
    Option.none_or]

def above? (image : ManagedImage) (k : LinkedClass) : Option LinkedClass :=
  k.info.superclass.bind (newestClass? image)

/-- The classes that a climb adds to the names that are listed already. -/
inductive Ascends (image : ManagedImage) :
    List String → Option LinkedClass → List LinkedClass → Prop where
  | top {listed} : Ascends image listed none []
  | listed {listed k} : k.info.name ∈ listed → Ascends image listed (some k) []
  | up {listed k ks} : k.info.name ∉ listed →
    Ascends image (listed ++ [k.info.name]) (image.above? k) ks →
    Ascends image listed (some k) (k :: ks)

namespace Ascends

variable {listed : List String} {start : Option LinkedClass} {ks : List LinkedClass}

/-- With enough steps a climb does not notice that they are bounded. -/
theorem climb_eq (h : Ascends image listed start ks) {steps : Nat} (hsteps : ks.length < steps) :
    climb image steps listed start = listed ++ ks.map (·.info.name) := by
  induction h generalizing steps with
  | top => simp [climb]
  | listed hk =>
    obtain ⟨n, rfl⟩ := Nat.exists_eq_add_one.2 hsteps
    simp [climb, hk]
  | up hk _ ih =>
    obtain ⟨n, rfl⟩ := Nat.exists_eq_add_one.2 (Nat.zero_lt_of_lt hsteps)
    rw [climb, if_neg hk]
    exact (ih (Nat.lt_of_succ_lt_succ hsteps)).trans (by simp)

theorem nodup (h : Ascends image listed start ks) (hlisted : listed.Nodup) :
    (listed ++ ks.map (·.info.name)).Nodup := by
  induction h with
  | top => simpa using hlisted
  | listed _ => simpa using hlisted
  | up hk _ ih =>
    have hmore := ih (by simpa using hlisted.concat hk)
    rwa [List.append_assoc] at hmore

theorem start_eq (h : Ascends image listed start (k :: ks)) : start = some k := by
  cases h with
  | up _ _ => rfl

theorem start_listed (h : Ascends image listed start []) :
    start = none ∨ ∃ l, start = some l ∧ l.info.name ∈ listed := by
  cases h with
  | top => exact .inl rfl
  | listed hl => exact .inr ⟨_, rfl, hl⟩

theorem head? (h : Ascends image [] start ks) : ks.head? = start := by
  cases h with
  | top => rfl
  | listed hk => cases hk
  | up _ _ => rfl

theorem isChain (h : Ascends image listed start ks) :
    ks.IsChain fun k l => image.above? k = some l := by
  induction h with
  | top => exact .nil
  | listed _ => exact .nil
  | @up _ _ ks _ hup ih =>
    cases ks with
    | nil => exact .singleton _
    | cons l ks => exact .cons_cons hup.start_eq ih

/-- Nothing new is above the last class. -/
theorem above?_last (h : Ascends image listed start ks) : ∀ k ∈ ks.getLast?,
    image.above? k = none ∨
      ∃ l, image.above? k = some l ∧ l.info.name ∈ listed ++ ks.map (·.info.name) := by
  induction h with
  | top => simp
  | listed _ => simp
  | @up listed k ks _ hup ih =>
    intro l hl
    rw [List.map_cons, List.append_cons]
    cases ks with
    | nil =>
      obtain rfl := Option.some.inj hl
      simpa using hup.start_listed
    | cons k' ks =>
      rw [List.getLast?_cons_cons] at hl
      exact ih l hl

/-- Every class but the first is the newest of its name. -/
theorem newest (h : Ascends image listed start ks) (hk : k ∈ ks) :
    start = some k ∨ newestClass? image k.info.name = some k := by
  induction h with
  | top => cases hk
  | listed _ => cases hk
  | up _ _ ih =>
    rcases List.mem_cons.1 hk with rfl | hk
    · exact .inl rfl
    right
    rcases ih hk with habove | hnewest
    · obtain ⟨name, _, hname⟩ := Option.bind_eq_some_iff.1 habove
      rwa [(newestClass?_eq_some_iff.1 hname).1]
    · exact hnewest

theorem mem_classes (h : Ascends image listed start ks) (hstart : ∀ k ∈ start, k ∈ image.classes) :
    ∀ k ∈ ks, k ∈ image.classes := by
  intro k hk
  rcases h.newest hk with hk | hk
  · exact hstart k hk
  · exact mem_of_newestClass? hk

theorem of_above?_eq {image' : ManagedImage} (h : Ascends image listed start ks)
    (habove : ∀ k ∈ ks, image'.above? k = image.above? k) : Ascends image' listed start ks := by
  induction h with
  | top => exact .top
  | listed hk => exact .listed hk
  | up hk _ ih =>
    refine .up hk ?_
    rw [habove _ List.mem_cons_self]
    exact ih fun k hk => habove k (List.mem_cons_of_mem _ hk)

end Ascends

theorem mem_of_above? {l : LinkedClass} (h : image.above? k = some l) : l ∈ image.classes := by
  obtain ⟨name, _, hname⟩ := Option.bind_eq_some_iff.1 h
  exact mem_of_newestClass? hname

/-- The names of a climb are those of registered classes, so there are not more of them. -/
theorem length_le_classes {listed : List String} (hnodup : listed.Nodup)
    (hknown : ∀ name ∈ listed, ∃ k ∈ image.classes, k.info.name = name) :
    listed.length ≤ image.classes.length := by
  rw [← List.length_map (fun k : LinkedClass => k.info.name)]
  refine (List.subperm_of_subset hnodup fun name hname => ?_).length_le
  exact List.mem_map.2 (hknown name hname)

/-- Every climb ends, and it does not take more steps than there are classes. -/
theorem exists_ascends {listed : List String} {start : Option LinkedClass} (hnodup : listed.Nodup)
    (hknown : ∀ name ∈ listed, ∃ k ∈ image.classes, k.info.name = name)
    (hstart : ∀ k ∈ start, k ∈ image.classes) :
    ∃ ks, Ascends image listed start ks ∧ listed.length + ks.length ≤ image.classes.length := by
  induction hn : image.classes.length - listed.length using Nat.strongRecOn
      generalizing listed start with
  | ind n ih =>
    have hlength := length_le_classes hnodup hknown
    cases start with
    | none => exact ⟨[], .top, hlength⟩
    | some k =>
      by_cases hk : k.info.name ∈ listed
      · exact ⟨[], .listed hk, hlength⟩
      have hmore : (listed ++ [k.info.name]).Nodup := by simpa using hnodup.concat hk
      have hnames : ∀ name ∈ listed ++ [k.info.name], ∃ k ∈ image.classes, k.info.name = name := by
        intro name hname
        rcases List.mem_append.1 hname with hname | hname
        · exact hknown name hname
        · exact ⟨k, hstart k rfl, (List.mem_singleton.1 hname).symm⟩
      have hbound := length_le_classes hmore hnames
      rw [List.length_append, List.length_singleton] at hbound
      obtain ⟨ks, hks, htotal⟩ := ih _ (by rw [List.length_append, List.length_singleton]; omega)
        hmore hnames (fun l hl => mem_of_above? hl) rfl
      rw [List.length_append, List.length_singleton] at htotal
      refine ⟨k :: ks, .up hk hks, ?_⟩
      rw [List.length_cons]
      omega

theorem Ascends.climbed {start : Option LinkedClass} {ks : List LinkedClass}
    (h : Ascends image [] start ks) : image.Climbed start ks where
  head := h.head?
  nodup := h.nodup List.nodup_nil
  above := h.isChain.imp fun k l hl => by
    obtain ⟨name, hname, hl⟩ := Option.bind_eq_some_iff.1 hl
    exact ⟨name, hname, newestClass?_eq_some_iff.1 hl⟩
  top k hk := by
    rcases h.above?_last k hk with hnone | ⟨l, hl, hpassed⟩
    · cases hname : k.info.superclass with
      | none => exact .inl rfl
      | some name =>
        rw [above?, hname, Option.bind_some, newestClass?_eq_none_iff] at hnone
        exact .inr ⟨name, rfl, .inl hnone⟩
    · obtain ⟨name, hname, hl⟩ := Option.bind_eq_some_iff.1 hl
      obtain ⟨rfl, _⟩ := newestClass?_eq_some_iff.1 hl
      exact .inr ⟨l.info.name, hname, .inr (by simpa using hpassed)⟩

end ManagedImage

namespace Managed

variable {w : Process} {o : ObjectId} {ks : List LinkedClass}

theorem mem_classes_of_ownClass? : ∀ k ∈ ownClass? w o, k ∈ w.image.classes := by
  intro k hk
  obtain ⟨i, _, hk⟩ := Option.bind_eq_some_iff.1 hk
  exact List.mem_of_getElem? hk

theorem exists_classChain (w : Process) (o : ObjectId) :
    ∃ ks, ManagedImage.Ascends w.image [] (ownClass? w o) ks ∧
      ∀ steps, w.image.classes.length < steps →
        climb w.image steps [] (ownClass? w o) = ks.map (·.info.name) := by
  obtain ⟨ks, hks, hlength⟩ := ManagedImage.exists_ascends List.nodup_nil
    (fun _ hname => absurd hname List.not_mem_nil) mem_classes_of_ownClass?
  rw [List.length_nil, Nat.zero_add] at hlength
  exact ⟨ks, hks, fun steps hsteps => hks.climb_eq (Nat.lt_of_le_of_lt hlength hsteps)⟩

/-- What a class of the chain declares is what its descriptor in the chain has. -/
theorem declaredFields_eq (h : ManagedImage.Ascends w.image [] (ownClass? w o) ks)
    {k : LinkedClass} (hk : k ∈ ks) : declaredFields w o k.info.name = k.fields := by
  have hown {l : LinkedClass} (hl : ownClass? w o = some l) (hname : l.info.name = k.info.name) :
      l = k := by
    refine List.inj_on_of_nodup_map (h.nodup List.nodup_nil) ?_ hk hname
    exact List.mem_of_head? (h.head?.trans hl)
  rcases h.newest hk with hstart | hnewest
  · simp [declaredFields, hstart, Option.filter_some]
  · cases hstart : ownClass? w o with
    | none => simp [declaredFields, hstart, hnewest]
    | some l =>
      by_cases hname : l.info.name = k.info.name
      · simp [declaredFields, hstart, hown hstart hname, Option.filter_some]
      · simp [declaredFields, hstart, hname, hnewest, Option.filter_some]

/-- Descriptors that are added, none of them under the name of a superclass, change neither the
chain of an object's classes nor what the classes of the chain declare. -/
theorem classChain_append {w' : Process} {more : List LinkedClass}
    (hmore : w'.image.classes = w.image.classes ++ more) (hown : ownClass? w' o = ownClass? w o)
    (hnew : ∀ k ∈ w.image.classes, ∀ l ∈ more, k.info.superclass ≠ some l.info.name) :
    classChain w' o = classChain w o ∧
      ∀ c ∈ classChain w o, declaredFields w' o c = declaredFields w o c := by
  obtain ⟨ks, hks, hchain⟩ := exists_classChain w o
  have hmem := hks.mem_classes mem_classes_of_ownClass?
  -- What is above a class of the chain is found by the name of a superclass.
  have habove : ∀ k ∈ ks, w'.image.above? k = w.image.above? k := by
    intro k hk
    cases hname : k.info.superclass with
    | none => simp [ManagedImage.above?, hname]
    | some name =>
      rw [ManagedImage.above?, ManagedImage.above?, hname, Option.bind_some, Option.bind_some]
      refine ManagedImage.newestClass?_append hmore fun l hl heq => hnew k (hmem k hk) l hl ?_
      rw [hname, heq]
  have hks' : ManagedImage.Ascends w'.image [] (ownClass? w' o) ks := hown ▸ hks.of_above?_eq habove
  have hlength : (ks.map (·.info.name)).length ≤ w'.image.classes.length := by
    refine ManagedImage.length_le_classes (hks.nodup List.nodup_nil) fun name hname => ?_
    obtain ⟨k, hk, rfl⟩ := List.mem_map.1 hname
    exact ⟨k, hmore ▸ List.mem_append_left _ (hmem k hk), rfl⟩
  rw [List.length_map] at hlength
  have hchain' : classChain w o = ks.map (·.info.name) := hchain _ (Nat.lt_succ_self _)
  refine ⟨?_, ?_⟩
  · rw [hchain']
    exact hks'.climb_eq (Nat.lt_succ_of_le hlength)
  · intro c hc
    rw [hchain'] at hc
    obtain ⟨k, hk, rfl⟩ := List.mem_map.1 hc
    rw [declaredFields_eq hks' hk, declaredFields_eq hks hk]

/-- The object and the descriptors are the same in both processes. -/
def Alike (o : ObjectId) (w w' : Process) : Prop :=
  w'.instance? o = w.instance? o ∧ w'.image.classes = w.image.classes

def held (w : Process) (o : ObjectId) (k : LinkedClass) : List (String × Datum) :=
  (w.fields o).filter fun e => e.2.object?.isSome && k.fields.contains e.1

theorem mem_held {e : String × Datum} {k : LinkedClass} :
    e ∈ held w o k ↔ e ∈ w.fields o ∧ (∃ p, e.2 = .object p) ∧ e.1 ∈ k.fields := by
  obtain ⟨name, v⟩ := e
  cases v <;> simp [held, Value.object?]

theorem Alike.refl (w : Process) : Alike o w w := ⟨rfl, rfl⟩

theorem Alike.trans {w' w'' : Process} (h : Alike o w w') (h' : Alike o w' w'') : Alike o w w'' :=
  ⟨h'.1.trans h.1, h'.2.trans h.2⟩

theorem Alike.declares {w' : Process} (h : Alike o w w') (name : String) :
    declaredFields w' o name = declaredFields w o name := by
  have hown : ownClass? w' o = ownClass? w o := by
    simp only [ownClass?, h.1, ManagedImage.class?, h.2]
  simp only [Managed.declaredFields, hown, ManagedImage.newestClass?_eq, h.2]

theorem Alike.references {w' : Process} (h : Alike o w w') {k : LinkedClass}
    (hk : declaredFields w o k.info.name = k.fields) :
    (Subject.managed o).references view w' k.info.name =
      (held w o k).map fun e => .value e.2 := by
  simp only [Subject.references, view, h.declares, hk, held, World.fields, h.1]

section Walk

variable {visit : Node → Walk ManagedImage → Walk ManagedImage} {s : Walk ManagedImage}

theorem alike_carried (o : ObjectId) :
    Walk.Carried fun s s' : Walk ManagedImage => Alike o s.world s'.world where
  refl s := Alike.refl s.world
  trans h h' := h.trans h'

theorem foldl_references (hvisit : ∀ n s, Alike o s.world (visit n s).world) (cs : List LinkedClass)
    (hcs : ∀ k ∈ cs, declaredFields w o k.info.name = k.fields) (h : Alike o w s.world) :
    (cs.map (·.info.name)).foldl
        (fun s c => Walk.each visit ((Subject.managed o).references view s.world c) s) s =
      Walk.each visit ((cs.flatMap (held w o)).map fun e => .value e.2) s := by
  induction cs generalizing s with
  | nil => rfl
  | cons k cs ih =>
    obtain ⟨hk, hcs⟩ := List.forall_mem_cons.1 hcs
    have hstep := (alike_carried o).each hvisit ((held w o k).map fun e => .value e.2) s
    rw [List.map_cons, List.foldl_cons, h.references hk, ih hcs (h.trans hstep),
      List.flatMap_cons, List.map_append, Walk.each, Walk.each, Walk.each, List.foldl_append]

end Walk

/-- The chain of an object's classes is the climb from its own class, however many steps more it is
given. A walk through the references that the classes declare visits a field of the object just if
it holds an object and a class of the chain declares it, up to the first framework root. -/
theorem classChain_references (w : Process) (o : ObjectId) :
    ∃ ks, classChain w o = ks.map (·.info.name) ∧ w.image.Climbed (ownClass? w o) ks ∧
      (∀ steps, w.image.classes.length < steps →
        climb w.image steps [] (ownClass? w o) = classChain w o) ∧
      ∀ rules : SweepRules, ∃ visited : List (String × Datum),
        (∀ e, e ∈ visited ↔ e ∈ w.fields o ∧ (∃ p, e.2 = .object p) ∧
          ∃ before k after, ks = before ++ k :: after ∧
            (∀ j ∈ before ++ [k], j.info.name ∉ rules.frameworkRoots) ∧ e.1 ∈ k.fields) ∧
        ∀ visit s, s.world = w → (∀ n s, Alike o s.world (visit n s).world) →
          Walk.throughReferences view rules visit (.managed o) s =
            Walk.each visit (visited.map fun e => .value e.2) s := by
  obtain ⟨ks, hks, hclimb⟩ := exists_classChain w o
  have hchain : classChain w o = ks.map (·.info.name) := hclimb _ (Nat.lt_succ_self _)
  refine ⟨ks, hchain, hks.climbed, fun steps hsteps => (hclimb steps hsteps).trans hchain.symm,
    fun rules => ?_⟩
  let below := ks.takeWhile fun k => !rules.frameworkRoots.contains k.info.name
  refine ⟨below.flatMap (held w o), fun e => ?_, ?_⟩
  · simp only [List.mem_flatMap, mem_held, below, mem_takeWhile_iff]
    constructor
    · rintro ⟨k, ⟨before, after, hsplit, hbefore⟩, hfield, hobject, hdeclared⟩
      exact ⟨hfield, hobject, before, k, after, hsplit, by simpa using hbefore, hdeclared⟩
    · rintro ⟨hfield, hobject, before, k, after, hsplit, hbefore, hdeclared⟩
      exact ⟨k, ⟨before, after, hsplit, by simpa using hbefore⟩, hfield, hobject, hdeclared⟩
  · rintro visit s rfl hvisit
    rw [Walk.throughReferences]
    have hbelow : ((Subject.managed o).chain view s.world).takeWhile
        (fun c => !rules.frameworkRoots.contains c) = below.map (·.info.name) := by
      simp only [Subject.chain, view, hchain, List.takeWhile_map, Function.comp_def, below]
    rw [hbelow]
    refine foldl_references hvisit below (fun k hk => ?_) ⟨rfl, rfl⟩
    exact declaredFields_eq hks (List.takeWhile_subset _ hk)

namespace Climbing

/-- Two classes, each the superclass of the other. -/
def circle : ModuleSpec Body :=
  { name := "Circle"
    classes := [{ name := "A", superclass := some "B", fields := ["x"], isLegacy := true },
      { name := "B", superclass := some "A", fields := ["y"] }] }

/-- One of them is defined again, with another superclass. -/
def reparented : ModuleSpec Body :=
  { name := "Circle", classes := [{ name := "A", superclass := some "C", fields := ["z"] }] }

def circled : Process :=
  ["x", "y", "z"].foldl (fun w field => (Command.setField ⟨1⟩ field (.object ⟨2⟩)).perform w) <|
    [.load circle, .create ⟨0⟩, .create ⟨1⟩, .load reparented].foldl
      (fun w c => Command.perform c w) { image := .empty false }

def stopAtB : SweepRules :=
  { excludes := fun _ => false, frameworkRoots := ["B"], readers := [], modified := [], hook := "" }

def count (_ : Node) (s : Walk ManagedImage) : Walk ManagedImage :=
  { s with report := { s.report with visited := s.report.visited + 1 } }

theorem classChain_references_circled : classChain circled ⟨1⟩ = ["A", "B"] ∧
    ∃ visited : List (String × Datum),
      ("x", .object ⟨2⟩) ∈ visited ∧ ("y", .object ⟨2⟩) ∉ visited ∧
      Walk.throughReferences view stopAtB count (.managed ⟨1⟩) { world := circled } =
        Walk.each count (visited.map fun e => .value e.2) { world := circled } := by
  obtain ⟨ks, hchain, hclimbed, _, hvisited⟩ := classChain_references circled ⟨1⟩
  obtain ⟨visited, hiff, heach⟩ := hvisited stopAtB
  have hnames : classChain circled ⟨1⟩ = ["A", "B"] := by decide
  rw [hnames] at hchain
  obtain ⟨a, _, rfl, ha, hrest⟩ := List.map_eq_cons_iff.1 hchain.symm
  obtain ⟨b, _, rfl, hb, hnil⟩ := List.map_eq_cons_iff.1 hrest
  obtain rfl := List.map_eq_nil_iff.1 hnil
  have hfields : a.fields = ["x"] := by
    have hown : (ownClass? circled ⟨1⟩).map (·.fields) = some ["x"] := by decide
    rw [← hclimbed.head] at hown
    exact Option.some.inj hown
  have hx : ("x", .object ⟨2⟩) ∈ circled.fields ⟨1⟩ := List.mem_cons_self
  refine ⟨hnames, visited, (hiff _).2 ⟨hx, ⟨_, rfl⟩, [], a, [b], rfl, ?_, ?_⟩, ?_, ?_⟩
  · simp [ha, stopAtB]
  · simp [hfields]
  · intro hy
    obtain ⟨_, _, before, k, after, hsplit, hbefore, hdeclared⟩ := (hiff _).1 hy
    rcases before with _ | ⟨_, before⟩
    · obtain ⟨rfl, _⟩ := List.cons.inj hsplit
      simp [hfields] at hdeclared
    · obtain ⟨_, hsplit⟩ := List.cons.inj hsplit
      have hstop : b ∈ before ++ [k] := by
        have hin := congrArg List.head? hsplit
        cases before <;> simp_all
      exact hbefore b (List.mem_cons_of_mem _ hstop) (by simp [hb, stopAtB])
  · exact heach count _ rfl fun n s => ⟨rfl, rfl⟩

end Climbing

end Managed

end HotReload

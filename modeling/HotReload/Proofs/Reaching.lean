import HotReload.Sweep.Walk
import Mathlib.Algebra.Order.BigOperators.Group.List
import Mathlib.Algebra.Order.Ring.Nat

/-! # What a sweep reaches

A value leads to the objects that hang from it through lists and maps, and an object to what its
fields, or the references that its classes declare, lead to. The relation is read off one world;
nothing in it speaks of the order of a walk.
-/

namespace HotReload

namespace Value

variable {ρ : Type}

mutual

/-- The objects that hang from the value through lists and maps. -/
def references : Value ρ → List ρ
  | list items => referencesOfItems items
  | map entries => referencesOfEntries entries
  | object ref => [ref]
  | _ => []

def referencesOfItems : List (Value ρ) → List ρ
  | [] => []
  | v :: vs => references v ++ referencesOfItems vs

def referencesOfEntries : List (String × Value ρ) → List ρ
  | [] => []
  | (_, v) :: es => references v ++ referencesOfEntries es

end

theorem referencesOfItems_eq (items : List (Value ρ)) :
    referencesOfItems items = items.flatMap references := by
  induction items with
  | nil => rfl
  | cons v vs ih => rw [referencesOfItems, ih, List.flatMap_cons]

theorem referencesOfEntries_eq (entries : List (String × Value ρ)) :
    referencesOfEntries entries = (entries.map (·.2)).flatMap references := by
  induction entries with
  | nil => rfl
  | cons e es ih => rw [referencesOfEntries, ih, List.map_cons, List.flatMap_cons]

theorem size_le_sizeItems {items : List (Value ρ)} {v : Value ρ} (h : v ∈ items) :
    v.size ≤ sizeItems items := by
  induction items with
  | nil => simp at h
  | cons u us ih =>
    rw [sizeItems]
    rcases List.mem_cons.1 h with rfl | h
    · exact Nat.le_add_right _ _
    · exact Nat.le_trans (ih h) (Nat.le_add_left _ _)

theorem size_le_sizeEntries {entries : List (String × Value ρ)} {v : Value ρ}
    (h : v ∈ entries.map (·.2)) : v.size ≤ sizeEntries entries := by
  induction entries with
  | nil => simp at h
  | cons e es ih =>
    obtain ⟨k, u⟩ := e
    rw [sizeEntries]
    rcases List.mem_cons.1 h with rfl | h
    · exact Nat.le_add_right _ _
    · exact Nat.le_trans (ih h) (Nat.le_add_left _ _)

end Value

namespace World

variable {ι : Type}

def Has (w : World ι) (o : ObjectId) : Prop := (w.instance? o).isSome = true

instance (w : World ι) (o : ObjectId) : Decidable (w.Has o) :=
  inferInstanceAs (Decidable (_ = true))

/-- The references of the roots and of all fields are objects of the world. -/
structure IsGraph (w : World ι) (roots : List (Value ObjectId)) : Prop where
  roots : ∀ r ∈ roots, ∀ o ∈ r.references, w.Has o
  fields : ∀ i ∈ w.objects, ∀ f ∈ i.fields, ∀ o ∈ f.2.references, w.Has o

theorem mem_of_instance? {w : World ι} {o : ObjectId} {i : Instance} (h : w.instance? o = some i) :
    i ∈ w.objects := by
  obtain ⟨number⟩ := o
  cases number with
  | zero => simp [instance?] at h
  | succ n => exact Array.mem_of_getElem? h

theorem IsGraph.has {w : World ι} {roots : List (Value ObjectId)} (h : w.IsGraph roots)
    {o p : ObjectId} {f : String × Value ObjectId} (hf : f ∈ w.fields o)
    (hp : p ∈ f.2.references) : w.Has p := by
  unfold World.fields at hf
  cases hi : w.instance? o with
  | none => simp [hi] at hf
  | some i =>
    rw [hi] at hf
    exact h.fields i (mem_of_instance? hi) f hf p hp

end World

namespace ObjectView

variable {ι : Type} (v : ObjectView ι) (rules : SweepRules) (w : World ι)

/-- The fields of an object that hold instances. -/
def instances (o : ObjectId) : List (Value ObjectId) :=
  ((w.fields o).filter fun f => !isMetatypeField f.1 ((Node.value f.2).typeName? v w)).map (·.2)

/-- The references in the fields that a class of the chain declares. -/
def references (o : ObjectId) (declaring : String) : List (Value ObjectId) :=
  ((w.fields o).filter fun f =>
    f.2.object?.isSome && (v.declared w o declaring).contains f.1).map (·.2)

/-- The classes of an object before the first framework root. -/
def ownClasses (o : ObjectId) : List String :=
  (v.chain w o).takeWhile fun c => !rules.frameworkRoots.contains c

def followed (o : ObjectId) : List (Value ObjectId) :=
  if rules.excludes (v.className w o) then []
  else if v.introspects w o then v.instances w o
  else (v.ownClasses rules w o).flatMap (v.references w o)

def Follows (o p : ObjectId) : Prop := p ∈ (v.followed rules w o).flatMap Value.references

/-- The objects that some objects lead to. -/
inductive Reaches (starts : List ObjectId) : ObjectId → Prop where
  | start {o : ObjectId} : o ∈ starts → Reaches starts o
  | follow {o p : ObjectId} : Reaches starts o → v.Follows rules w o p → Reaches starts p

variable {v rules w} {starts : List ObjectId} {o : ObjectId}

theorem Reaches.trans {mids : List ObjectId} (h : v.Reaches rules w mids o)
    (hmids : ∀ p ∈ mids, v.Reaches rules w starts p) : v.Reaches rules w starts o := by
  induction h with
  | start hp => exact hmids _ hp
  | follow _ hf ih => exact .follow ih hf

theorem Reaches.mono {mids : List ObjectId} (h : v.Reaches rules w starts o)
    (hsub : ∀ p ∈ starts, p ∈ mids) : v.Reaches rules w mids o :=
  h.trans fun p hp => .start (hsub p hp)

theorem mem_fields_of_followed {x : Value ObjectId} (h : x ∈ v.followed rules w o) :
    ∃ f ∈ w.fields o, f.2 = x := by
  unfold followed at h
  split at h
  · simp at h
  · split at h
    · obtain ⟨f, hf, rfl⟩ := List.mem_map.1 h
      exact ⟨f, (List.mem_filter.1 hf).1, rfl⟩
    · obtain ⟨c, _, h⟩ := List.mem_flatMap.1 h
      obtain ⟨f, hf, rfl⟩ := List.mem_map.1 h
      exact ⟨f, (List.mem_filter.1 hf).1, rfl⟩

/-- Whatever is reached from objects of the graph is an object of the graph. -/
theorem Reaches.has {roots : List (Value ObjectId)} (hgraph : w.IsGraph roots)
    (hstarts : ∀ p ∈ starts, w.Has p) (h : v.Reaches rules w starts o) : w.Has o := by
  induction h with
  | start hp => exact hstarts _ hp
  | follow _ hf _ =>
    obtain ⟨x, hx, hp⟩ := List.mem_flatMap.1 hf
    obtain ⟨f, hf, rfl⟩ := mem_fields_of_followed hx
    exact hgraph.has hf hp

end ObjectView

namespace World

variable {ι : Type}

def ids (w : World ι) : List ObjectId := (List.range w.objects.size).map fun n => ⟨n + 1⟩

/-- One for the object itself, and what its fields hold. -/
def weight (w : World ι) (o : ObjectId) : Nat := 1 + ((w.fields o).map (·.2.size)).sum

def unseen (w : World ι) (seen : List ObjectIdentity) : Nat :=
  ((w.ids.filter fun o => decide (.managed o ∉ seen)).map w.weight).sum

variable {w : World ι} {o : ObjectId} {seen : List ObjectIdentity}

theorem Has.mem_ids (h : w.Has o) : o ∈ w.ids := by
  obtain ⟨number⟩ := o
  cases number with
  | zero => simp [Has, instance?] at h
  | succ n =>
    have hn : n < w.objects.size := by simpa [Has, instance?] using h
    exact List.mem_map.2 ⟨n, List.mem_range.2 hn, rfl⟩

theorem sum_filter_le (weight : ObjectId → Nat) (ids : List ObjectId)
    {fewer more : ObjectId → Bool} (h : ∀ o, fewer o = true → more o = true) :
    ((ids.filter fewer).map weight).sum ≤ ((ids.filter more).map weight).sum :=
  ((List.monotone_filter_right ids h).map weight).sum_le_sum fun _ _ => Nat.zero_le _

theorem unseen_le {more : List ObjectIdentity} (h : ∀ i ∈ seen, i ∈ more) :
    w.unseen more ≤ w.unseen seen := by
  apply sum_filter_le
  intro o ho
  simp only [decide_eq_true_eq] at ho ⊢
  exact fun hin => ho (h _ hin)

theorem weight_add_unseen (ho : w.Has o) (hnew : .managed o ∉ seen) :
    w.weight o + w.unseen (.managed o :: seen) ≤ w.unseen seen := by
  have hmem := ho.mem_ids
  unfold unseen
  generalize w.ids = ids at hmem ⊢
  induction ids with
  | nil => simp at hmem
  | cons i ids ih =>
    by_cases hi : i = o
    · subst hi
      have hrest : ((ids.filter fun o => decide (.managed o ∉ ObjectIdentity.managed i :: seen)).map
          w.weight).sum ≤ ((ids.filter fun o => decide (.managed o ∉ seen)).map w.weight).sum := by
        apply sum_filter_le
        simp
      simp only [List.filter_cons, List.mem_cons, true_or, not_true_eq_false, hnew,
        not_false_eq_true, decide_true, decide_false, if_true, List.map_cons, List.sum_cons]
      simpa using hrest
    · have hrest := ih ((List.mem_cons.1 hmem).resolve_left (Ne.symm hi))
      by_cases hs : .managed i ∈ seen
      · simpa [List.filter_cons, hs] using hrest
      · simp only [List.mem_cons, ObjectIdentity.managed.injEq] at hrest
        simp only [List.filter_cons, List.mem_cons, ObjectIdentity.managed.injEq, hi, hs, or_self,
          not_false_eq_true, decide_true, if_true, List.map_cons, List.sum_cons]
        omega

theorem size_lt_weight {f : String × Value ObjectId} (h : f ∈ w.fields o) :
    f.2.size < w.weight o := by
  have hle : f.2.size ≤ ((w.fields o).map (·.2.size)).sum :=
    List.single_le_sum (fun _ _ => Nat.zero_le _) _ (List.mem_map.2 ⟨f, h, rfl⟩)
  exact Nat.lt_one_add_iff.2 hle

theorem foldl_add {α : Type} (f : α → Nat) (xs : List α) (n : Nat) :
    xs.foldl (fun n x => n + f x) n = n + (xs.map f).sum := by
  induction xs generalizing n with
  | nil => simp
  | cons x xs ih => simp [ih, Nat.add_assoc]

theorem unseen_nil (w : World ι) :
    w.unseen [] = (w.objects.toList.map fun i => 1 + (i.fields.map (·.2.size)).sum).sum := by
  have h : w.ids.map w.weight =
      w.objects.toList.map fun i => 1 + (i.fields.map (·.2.size)).sum := by
    apply List.ext_getElem
    · simp [ids]
    · intro n hn hn'
      have hsize : n < w.objects.size := by simpa [ids] using hn
      simp [ids, weight, fields, instance?, hsize]
  simp [unseen, h]

/-- The depth that a walk is given is enough to begin with. -/
theorem size_add_unseen_le_walkDepth (w : World ι) {roots : List (Value ObjectId)}
    {r : Value ObjectId} (h : r ∈ roots) :
    r.size + w.unseen [] ≤ w.walkDepth (roots.map .value) := by
  have hroots : r.size ≤ ((roots.map Node.value).map Node.size).sum :=
    List.single_le_sum (fun _ _ => Nat.zero_le _) _ (by
      rw [List.map_map]
      exact List.mem_map.2 ⟨r, h, by simp [Node.size]⟩)
  have hobject (n : Nat) (i : Instance) :
      i.fields.foldl (fun n f => n + f.2.size) (n + 1) =
        n + (1 + (i.fields.map (·.2.size)).sum) := by
    rw [foldl_add]
    omega
  simp only [walkDepth, foldl_add, hobject, ← Array.foldl_toList, unseen_nil]
  omega

end World

end HotReload

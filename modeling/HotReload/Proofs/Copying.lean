import HotReload.Proofs.Swizzling

/-! # What a swizzle makes of each entry

The first entry of a selector gets the last address that the new version offers under the selector
and that differs from the one that the entry held when its table was read. Every other entry stays.
-/

namespace HotReload

open ManagedImage (Confined)

section Entries

/-- The first entry of a selector is the one that is looked up. -/
theorem lookup_of_findIdx? {table : Selectors} {selector : String} {a : Address} {j : Nat}
    (hj : table.findIdx? (·.1 == selector) = some j) (ha : table[j]? = some (selector, a)) :
    table.lookup selector = some a := by
  induction table generalizing j with
  | nil => cases hj
  | cons e es ih =>
    rw [List.findIdx?_cons] at hj
    by_cases he : e.1 = selector
    · obtain rfl : 0 = j := by simpa [he] using hj
      obtain rfl : e = (selector, a) := Option.some.inj ha
      simp
    · obtain ⟨i, hi, rfl⟩ : ∃ i, es.findIdx? (·.1 == selector) = some i ∧ i + 1 = j := by
        simpa [he] using hj
      rw [List.lookup_cons, beq_false_of_ne (Ne.symm he)]
      exact ih hi ha

theorem lookup_isSome_eq (table : Selectors) (selector : String) :
    (table.lookup selector).isSome = (table.findIdx? (·.1 == selector)).isSome := by
  induction table with
  | nil => rfl
  | cons e es ih =>
    rw [List.findIdx?_cons, List.lookup_cons]
    by_cases he : e.1 = selector
    · simp [he]
    · rw [beq_false_of_ne (Ne.symm he), beq_false_of_ne he]
      simpa using ih

namespace ManagedImage

variable {image after : ManagedImage} {c d : ClassId} {t : SelectorTable} {selector : String}

theorem Confined.entryIndex? {D : ClassId → Prop} (h : Confined D image after) (d : ClassId)
    (t : SelectorTable) (selector : String) :
    after.entryIndex? d t selector = image.entryIndex? d t selector := by
  have hindex (k : LinkedClass) : (k.table t).findIdx? (·.1 == selector) =
      ((k.blank.table t).map (·.1)).findIdx? (· == selector) := by
    rw [LinkedClass.table_blank, List.findIdx?_map]
    rfl
  obtain ⟨hl, hk⟩ | ⟨l, k, hl, hk, hblank⟩ := h.class?_cases d
  · simp [ManagedImage.entryIndex?, hl, hk]
  · simp only [ManagedImage.entryIndex?, hl, hk, Option.bind_some, hindex, hblank]

theorem Confined.entryAt? {D : ClassId → Prop} (h : Confined D image after) (hd : ¬D d)
    (t : SelectorTable) (j : Nat) : after.entryAt? d t j = image.entryAt? d t j := by
  rw [ManagedImage.entryAt?, h.outside d hd, ManagedImage.entryAt?]

/-- What is looked up in a table is in the first entry of the selector. -/
theorem lookup_table {k : LinkedClass} (hk : image.class? c = some k) (t : SelectorTable)
    (selector : String) : (k.table t).lookup selector =
      (image.entryIndex? c t selector).bind fun j => (image.entryAt? c t j).map (·.2) := by
  have hindex : image.entryIndex? c t selector = (k.table t).findIdx? (·.1 == selector) := by
    simp [entryIndex?, hk]
  cases hj : image.entryIndex? c t selector with
  | none =>
    have hsome := lookup_isSome_eq (k.table t) selector
    rw [← hindex, hj] at hsome
    simpa using hsome
  | some j =>
    obtain ⟨a, ha⟩ := exists_entryAt? hj
    rw [Option.bind_some, ha]
    exact lookup_of_findIdx? (hindex.symm.trans hj) (by simpa [entryAt?, hk] using ha)

theorem entryIndex?_isSome_of_lookup {k : LinkedClass} (hk : image.class? c = some k)
    (h : ((k.table t).lookup selector).isSome) : (image.entryIndex? c t selector).isSome := by
  rw [lookup_table hk] at h
  cases hj : image.entryIndex? c t selector with
  | none => simp [hj] at h
  | some j => rfl

theorem replaceSelector_isOk {j : Nat} (h : image.entryIndex? c t selector = some j)
    (a : Address) : ∃ after, image.replaceSelector c t selector a = .ok after := by
  obtain ⟨k, hk, hj⟩ := Option.bind_eq_some_iff.1 h
  have hany : (k.table t).any (·.1 == selector) = true := by
    rw [← List.findIdx?_isSome, hj]
    rfl
  simp [replaceSelector, hk, hany]

end ManagedImage

end Entries

namespace Swizzle

/-- The last address offered for a selector among those that differ from the current one. -/
def latest? (current : Address) (offers : Selectors) (selector : String) : Option Address :=
  ((offers.filter fun e => e.1 == selector && e.2 != current).getLast?).map (·.2)

theorem latest?_cons (current : Address) (e : String × Address) (offers : Selectors)
    (selector : String) : latest? current (e :: offers) selector =
      (latest? current offers selector).or (latest? current [e] selector) := by
  simp only [latest?, List.filter_cons, List.filter_nil]
  split
  · rw [List.getLast?_cons]
    cases (offers.filter fun e => e.1 == selector && e.2 != current).getLast? <;> rfl
  · simp

theorem latest?_singleton (current : Address) (e : String × Address) (selector : String) :
    latest? current [e] selector =
      if e.1 = selector ∧ e.2 ≠ current then some e.2 else none := by
  by_cases h : e.1 = selector ∧ e.2 ≠ current <;> simp [latest?, h]

variable {old new : ClassId} {t : SelectorTable} {before : Selectors}

/-- What becomes of an entry of the old version when offers are copied, compared with the table as
it was read. -/
def copied (image : ManagedImage) (old : ClassId) (t : SelectorTable) (before offers : Selectors)
    (d : ClassId) (t' : SelectorTable) (j : Nat) (e : String × Address) : String × Address :=
  if d = old ∧ t' = t ∧ image.entryIndex? old t e.1 = some j then
    (e.1, ((before.lookup e.1).bind fun current => latest? current offers e.1).getD e.2)
  else e

theorem entryAt?_copyEntry (acc : SwizzleOutcome × ManagedImage) (offer : String × Address)
    (hbefore : ∀ selector, (before.lookup selector).isSome →
      (acc.2.entryIndex? old t selector).isSome) (d : ClassId) (t' : SelectorTable) (j : Nat) :
    (copyEntry old t before acc offer).2.entryAt? d t' j =
      (acc.2.entryAt? d t' j).map (copied acc.2 old t before [offer] d t' j) := by
  have hkept (h : (before.lookup offer.1).bind (fun current => latest? current [offer] offer.1) =
      none) : (acc.2.entryAt? d t' j).map (copied acc.2 old t before [offer] d t' j) =
        acc.2.entryAt? d t' j := by
    cases acc.2.entryAt? d t' j with
    | none => rfl
    | some e =>
      by_cases he : offer.1 = e.1
      · rw [he] at h
        simp [copied, h]
      · simp [copied, latest?_singleton, he]
  simp only [copyEntry]
  cases hlookup : before.lookup offer.1 with
  | none => exact (hkept (by simp [hlookup])).symm
  | some current =>
    by_cases hsame : current = offer.2
    · simp only [if_pos hsame]
      exact (hkept (by simp [hlookup, latest?_singleton, hsame])).symm
    · obtain ⟨i, hi⟩ := Option.isSome_iff_exists.1 (hbefore offer.1 (by simp [hlookup]))
      obtain ⟨after, hafter⟩ := ManagedImage.replaceSelector_isOk hi offer.2
      have hreplaced : CodeImage.replaceSelector acc.2 old t offer.1 offer.2 = .ok after := hafter
      simp only [if_neg hsame, hreplaced, ManagedImage.entryAt?_replaceSelector hafter]
      by_cases hplace : d = old ∧ t' = t ∧ acc.2.entryIndex? old t offer.1 = some j
      · obtain ⟨rfl, rfl, hj⟩ := hplace
        obtain ⟨a, ha⟩ := ManagedImage.exists_entryAt? hj
        simp [ha, hj, copied, hlookup, latest?_singleton, Ne.symm hsame]
      · rw [if_neg hplace]
        cases hentry : acc.2.entryAt? d t' j with
        | none => rfl
        | some e =>
          -- The offer is for another selector, or the entry is not the first of its selector.
          by_cases he : offer.1 = e.1
          · rw [he] at hplace
            simp [copied, if_neg hplace]
          · simp [copied, latest?_singleton, he]

theorem entryAt?_copyEach (offers : Selectors) (acc : SwizzleOutcome × ManagedImage)
    (hbefore : ∀ selector, (before.lookup selector).isSome →
      (acc.2.entryIndex? old t selector).isSome) (d : ClassId) (t' : SelectorTable) (j : Nat) :
    (offers.foldl (copyEntry old t before) acc).2.entryAt? d t' j =
      (acc.2.entryAt? d t' j).map (copied acc.2 old t before offers d t' j) := by
  induction offers generalizing acc with
  | nil =>
    have hnone : copied acc.2 old t before [] d t' j = id := by
      funext e
      cases h : before.lookup e.1 <;> simp [copied, h, latest?]
    rw [List.foldl_nil, hnone, Option.map_id, id]
  | cons offer offers ih =>
    have hconfined : Confined (· = old) acc.2 (copyEntry old t before acc offer).2 :=
      (confined_kept old).copyEntry t before acc offer
    have hindex := hconfined.entryIndex? old t
    rw [List.foldl_cons, ih _ fun selector h => by rw [hindex]; exact hbefore selector h,
      entryAt?_copyEntry acc offer hbefore, Option.map_map]
    congr 1
    funext e
    by_cases hplace : d = old ∧ t' = t ∧ acc.2.entryIndex? old t e.1 = some j
    · simp only [Function.comp_apply, copied, hindex, if_pos hplace]
      cases before.lookup e.1 with
      | none => rfl
      | some current =>
        simp only [Option.bind_some, latest?_cons current offer offers]
        cases latest? current offers e.1 <;> simp
    · simp [copied, hindex, hplace]

end Swizzle

def ManagedImage.offers (image : ManagedImage) (c : ClassId) (t : SelectorTable)
    (accepts : String → Bool) : Selectors :=
  (((image.class? c).map (·.table t)).getD []).filter fun e => accepts e.1

theorem ManagedImage.offers_eq {image : ManagedImage} {c : ClassId} {k : LinkedClass}
    (hk : image.class? c = some k) (t : SelectorTable) (accepts : String → Bool) :
    image.offers c t accepts = (k.table t).filter fun e => accepts e.1 := by
  simp [offers, hk]

namespace Swizzle

variable {image : ManagedImage} {old new : ClassId} {accepts : String → Bool}

/-- What an entry of the old version is after it was copied from the new one: the first entry of a
selector gets the latest offer. -/
def received (image : ManagedImage) (old new : ClassId) (accepts : String → Bool)
    (t : SelectorTable) (j : Nat) (e : String × Address) : String × Address :=
  if image.entryIndex? old t e.1 = some j then
    (e.1, (latest? e.2 (image.offers new t accepts) e.1).getD e.2)
  else e

theorem received_congr {after : ManagedImage} {t : SelectorTable}
    (hold : ∀ selector, after.entryIndex? old t selector = image.entryIndex? old t selector)
    (hnew : after.class? new = image.class? new) (accepts : String → Bool) :
    received after old new accepts t = received image old new accepts t := by
  funext j e
  rw [received, received, hold, ManagedImage.offers, hnew, ManagedImage.offers]

theorem received_confined {D : ClassId → Prop} {after : ManagedImage}
    (h : Confined D image after) (hnew : ¬D new) (old : ClassId) (accepts : String → Bool)
    (t : SelectorTable) : received after old new accepts t = received image old new accepts t :=
  received_congr (h.entryIndex? old t) (h.outside new hnew) accepts

theorem entryAt?_copyTable (acc : SwizzleOutcome × ManagedImage) (t t' : SelectorTable) (j : Nat) :
    (copyTable old new accepts acc t).2.entryAt? old t' j =
      if t' = t then (acc.2.entryAt? old t j).map (received acc.2 old new accepts t j)
      else acc.2.entryAt? old t' j := by
  cases hk : acc.2.class? old with
  | none =>
    have hnone (t : SelectorTable) : acc.2.entryAt? old t j = none := by
      simp [ManagedImage.entryAt?, hk]
    simp [copyTable, CodeImage.selectors, ManagedImage.classOrFail, hk, hnone, Except.map]
  | some k =>
    cases hl : acc.2.class? new with
    | none =>
      have hnothing : received acc.2 old new accepts t j = id := by
        funext e
        simp [received, ManagedImage.offers, hl, latest?]
      rw [hnothing, Option.map_id]
      by_cases ht : t' = t <;>
        simp [copyTable, CodeImage.selectors, ManagedImage.classOrFail, hk, hl, Except.map, ht]
    | some l =>
      have hoffers := ManagedImage.offers_eq hl t accepts
      simp only [copyTable, ManagedImage.selectors_of_class? hk,
        ManagedImage.selectors_of_class? hl]
      rw [entryAt?_copyEach _ _ fun _ => ManagedImage.entryIndex?_isSome_of_lookup hk]
      by_cases ht : t' = t
      · subst ht
        rw [if_pos rfl]
        refine Option.map_congr fun e he => ?_
        by_cases hj : acc.2.entryIndex? old t' e.1 = some j
        · have htable : (k.table t').lookup e.1 = some e.2 := by
            rw [ManagedImage.lookup_table hk, hj, Option.bind_some, he]
            rfl
          simp [copied, received, hj, htable, hoffers]
        · simp [copied, received, hj]
      · have hkept : copied acc.2 old t (k.table t) (acc.2.offers new t accepts) old t' j = id := by
          funext e
          simp [copied, ht]
        rw [← hoffers, hkept, Option.map_id, if_neg ht, id]

/-- What a swizzle makes of each entry of the old version. -/
theorem entryAt?_swizzle (hne : new ≠ old) (t : SelectorTable) (j : Nat) :
    (swizzle image old new accepts).2.entryAt? old t j =
      (image.entryAt? old t j).map (received image old new accepts t j) := by
  have hfirst := (confined_kept old).copyTable new accepts ({}, image) .onInstances
  simp only [swizzle, List.foldl_cons, List.foldl_nil, entryAt?_copyTable]
  cases t with
  | onInstances => simp
  | onClass => simp [received_confined hfirst hne]

end Swizzle

end HotReload

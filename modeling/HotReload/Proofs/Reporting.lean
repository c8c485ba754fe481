import HotReload.Proofs.Absorption
import HotReload.Proofs.Mirroring
import HotReload.Proofs.Tallying
import Mathlib.Data.String.Basic

/-! # Which names are reported as rebound

Taking a module in reports, in increasing order, the names of the call sites that it changed. For a
name that the module exports once at most, it is reported exactly when some call site of it leads
elsewhere afterwards, in any of the loaded modules and whatever the table held.
-/

namespace HotReload

namespace Interposition

theorem mem_insertName {name n : String} {ns : List String} :
    n ∈ insertName name ns ↔ n = name ∨ n ∈ ns := by
  induction ns with
  | nil => simp [insertName]
  | cons d ns ih =>
    rw [insertName]
    split
    · rename_i heq
      simp [heq]
    · split
      · simp
      · rw [List.mem_cons, ih, List.mem_cons]
        exact or_left_comm

theorem insertName_increasing (name : String) {ns : List String} (h : ns.Pairwise (· < ·)) :
    (insertName name ns).Pairwise (· < ·) := by
  induction ns with
  | nil => exact List.pairwise_singleton _ _
  | cons d ns ih =>
    obtain ⟨hd, hns⟩ := List.pairwise_cons.1 h
    rw [insertName]
    split
    · exact h
    · rename_i hne
      split
      · rename_i hlt
        refine List.pairwise_cons.2 ⟨fun n hn => ?_, h⟩
        rcases List.mem_cons.1 hn with rfl | hn
        · exact hlt
        · exact lt_trans hlt (hd n hn)
      · rename_i hlt
        refine List.pairwise_cons.2 ⟨fun n hn => ?_, ih hns⟩
        rcases mem_insertName.1 hn with rfl | hn
        · exact (lt_or_gt_of_ne hne).resolve_left hlt
        · exact hd n hn

theorem mem_sortedNames {n : String} {names : List String} : n ∈ sortedNames names ↔ n ∈ names := by
  have hfold (names sorted : List String) :
      n ∈ names.foldl (fun sorted n => insertName n sorted) sorted ↔ n ∈ sorted ∨ n ∈ names := by
    induction names generalizing sorted with
    | nil => simp
    | cons d names ih =>
      rw [List.foldl_cons, ih, mem_insertName, List.mem_cons, or_assoc, or_left_comm]
  simpa [sortedNames] using hfold names []

theorem sortedNames_increasing (names : List String) : (sortedNames names).Pairwise (· < ·) :=
  List.foldlRecOn (motive := fun sorted : List String => sorted.Pairwise (· < ·)) names _
    List.Pairwise.nil fun _ h name _ => insertName_increasing name h

/-- As many rebindings of a name are recorded as there are symbols of the name. -/
theorem names_recordEach (m : ModuleId) (sequence : Nat) (ss : List Symbol)
    (acc : List Rebinding × Interposition) :
    (ss.foldl (recordOne m sequence) acc).1.map (·.name) =
      acc.1.map (·.name) ++ ss.map (·.name) := by
  induction ss generalizing acc with
  | nil => simp
  | cons s ss ih =>
    obtain ⟨a, _, hbatch⟩ := recordOne_fst m sequence acc s
    rw [List.foldl_cons, ih, hbatch]
    simp

end Interposition

section Cells

def cellsOf (name : String) (sites : List (String × Address)) : List Address :=
  (sites.filter (·.1 == name)).map (·.2)

def ManagedImage.cells (image : ManagedImage) (m : ModuleId) (name : String) : List Address :=
  ((image.module? m).map fun k => cellsOf name k.callSites).getD []

def MappedImage.cells (image : MappedImage) (m : ModuleId) (name : String) : List Address :=
  ((image.module? m).map fun k => cellsOf name k.callSites).getD []

variable {ι : Type} [CodeImage ι] {cells : ι → ModuleId → String → List Address}
  {step : ModuleId → List String × ι → Rebinding → List String × ι}

/-- An image redirects call sites one after another, and reports a name when its cells change. -/
structure CodeImage.ReportsSteps (cells : ι → ModuleId → String → List Address)
    (step : ModuleId → List String × ι → Rebinding → List String × ι) : Prop where
  rebind : ∀ image m rs, CodeImage.rebind image m rs = rs.foldl (step m) ([], image)
  reported : ∀ m acc r name, name ∈ (step m acc r).1 ↔
    name ∈ acc.1 ∨ name = r.name ∧ cells (step m acc r).2 m name ≠ cells acc.2 m name
  kept : ∀ m acc r other name, other ≠ m ∨ name ≠ r.name →
    cells (step m acc r).2 other name = cells acc.2 other name

namespace CodeImage.ReportsSteps

variable (h : CodeImage.ReportsSteps cells step) {name : String}

include h

theorem foldl_kept {m other : ModuleId} {rs : List Rebinding} (acc : List String × ι)
    (hname : other ≠ m ∨ ∀ r ∈ rs, r.name ≠ name) :
    cells (rs.foldl (step m) acc).2 other name = cells acc.2 other name := by
  induction rs generalizing acc with
  | nil => rfl
  | cons r rs ih =>
    rw [List.foldl_cons, ih _ (hname.imp_right fun hr r hmem => hr r (List.mem_cons_of_mem _ hmem)),
      h.kept m acc r other name (hname.imp_right fun hr => Ne.symm (hr r List.mem_cons_self))]

/-- A name that is redirected once at most is reported when its cells change. -/
theorem foldl_reported {m : ModuleId} {rs : List Rebinding} (acc : List String × ι)
    (hname : (rs.map (·.name)).count name ≤ 1) : name ∈ (rs.foldl (step m) acc).1 ↔
      name ∈ acc.1 ∨ cells (rs.foldl (step m) acc).2 m name ≠ cells acc.2 m name := by
  induction rs generalizing acc with
  | nil => simp
  | cons r rs ih =>
    rw [List.map_cons, List.count_cons] at hname
    rw [List.foldl_cons, ih _ (by omega), h.reported]
    by_cases hr : r.name = name
    · have hrest : ∀ r ∈ rs, r.name ≠ name := by
        intro r' hr' hname'
        have hpos : 0 < (rs.map (·.name)).count name :=
          List.count_pos_iff.2 (hname' ▸ List.mem_map_of_mem hr')
        simp only [hr, beq_self_eq_true, if_true] at hname
        omega
      rw [h.foldl_kept _ (.inr hrest)]
      simp [hr]
    · rw [h.kept m acc r m name (.inr (Ne.symm hr))]
      simp [Ne.symm hr]

theorem mem_rebind {m : ModuleId} {rs : List Rebinding} (image : ι)
    (hname : (rs.map (·.name)).count name ≤ 1) : name ∈ (CodeImage.rebind image m rs).1 ↔
      cells (CodeImage.rebind image m rs).2 m name ≠ cells image m name := by
  rw [h.rebind, h.foldl_reported _ hname]
  simp

theorem cells_rebind {m other : ModuleId} (image : ι) (rs : List Rebinding) (hm : other ≠ m) :
    cells (CodeImage.rebind image m rs).2 other name = cells image other name := by
  rw [h.rebind, h.foldl_kept _ (.inl hm)]

theorem rebindEach_reported {batch : List Rebinding} (hname : (batch.map (·.name)).count name ≤ 1)
    {ms : List ModuleId} (hms : ms.Nodup) (acc : List String × ι) :
    let after := ms.foldl (fun acc m =>
      (acc.1 ++ (CodeImage.rebind acc.2 m batch).1, (CodeImage.rebind acc.2 m batch).2)) acc
    (name ∈ after.1 ↔
      name ∈ acc.1 ∨ ∃ other ∈ ms, cells after.2 other name ≠ cells acc.2 other name) ∧
      ∀ other ∉ ms, cells after.2 other name = cells acc.2 other name := by
  induction ms generalizing acc with
  | nil => simp
  | cons m ms ih =>
    obtain ⟨hm, hms⟩ := List.nodup_cons.1 hms
    obtain ⟨hreported, hkept⟩ := ih hms
      (acc.1 ++ (CodeImage.rebind acc.2 m batch).1, (CodeImage.rebind acc.2 m batch).2)
    simp only [List.foldl_cons] at hreported hkept ⊢
    refine ⟨?_, fun other hother => ?_⟩
    · rw [hreported, List.mem_append, h.mem_rebind acc.2 hname, or_assoc, ← hkept m hm]
      simp only [List.exists_mem_cons_iff]
      refine or_congr_right (or_congr_right ?_)
      refine exists_congr fun other => and_congr_right fun ho => ?_
      have hne : other ≠ m := fun he => hm (he ▸ ho)
      rw [h.cells_rebind acc.2 batch hne]
    · rw [hkept other fun ho => hother (List.mem_cons_of_mem m ho),
        h.cells_rebind acc.2 batch fun he => hother (List.mem_cons.2 (.inl he))]

/-- In several modules, a name that is redirected once at most is reported when its cells change in
one of them. -/
theorem rebindAll_reported {batch : List Rebinding} (hname : (batch.map (·.name)).count name ≤ 1)
    {ms : List ModuleId} (hms : ms.Nodup) (image : ι) :
    let after := Interposition.rebindAll batch ms image
    (name ∈ after.1 ↔ ∃ other ∈ ms, cells after.2 other name ≠ cells image other name) ∧
      ∀ other ∉ ms, cells after.2 other name = cells image other name := by
  obtain ⟨hreported, hkept⟩ := h.rebindEach_reported hname hms ([], image)
  exact ⟨hreported.trans (or_iff_right List.not_mem_nil), hkept⟩

theorem rebind_nil (image : ι) (m : ModuleId) : CodeImage.rebind image m [] = ([], image) := by
  rw [h.rebind, List.foldl_nil]

end CodeImage.ReportsSteps

namespace Interposition

/-- The rebound names are in increasing order. A name that the module exports once at most, as code
that may be redirected, is among them exactly when call sites of it lead elsewhere than before, in
some loaded module. -/
structure Absorbed.ReportsChanges (cells : ι → ModuleId → String → List Address) (preserve : Bool)
    (image : ι) (m : ModuleId) (done : Absorbed ι) : Prop where
  increasing : done.rebound.Pairwise (· < ·)
  mem_iff : ∀ name,
    (((CodeImage.exports image m).filter (·.kind.patchable preserve)).map (·.name)).count name ≤ 1 →
      (name ∈ done.rebound ↔
        ∃ other ∈ CodeImage.modules image, cells done.image other name ≠ cells image other name)

/-- What taking a loaded module in reports. -/
theorem reportsChanges_absorb (h : CodeImage.ReportsSteps cells step) {t : Interposition}
    (hd : t.Distinct) (preserve : Bool) {image : ι} {m : ModuleId} {sequence : Nat}
    (hs : CodeImage.sequence? image m = some sequence) (hnodup : (CodeImage.modules image).Nodup)
    (hm : m ∈ CodeImage.modules image) :
    ∃ done, t.absorb preserve image m = .ok done ∧ done.ReportsChanges cells preserve image m := by
  refine ⟨_, absorb_eq h.rebind_nil t preserve hs, sortedNames_increasing _, fun name hname => ?_⟩
  have hothers : ((CodeImage.modules image).filter (· != m)).Nodup := hnodup.filter _
  have hself : m ∉ (CodeImage.modules image).filter (· != m) := by simp
  obtain ⟨hdistinct, hbatch⟩ :
      (recordExports preserve m sequence (CodeImage.exports image m) t).2.Distinct ∧
      ((recordExports preserve m sequence (CodeImage.exports image m) t).1.map (·.name)).count name
        ≤ 1 := by
    rw [recordExports_eq]
    refine ⟨distinct_recordEach m sequence _ _ hd, ?_⟩
    rw [names_recordEach]
    simpa using hname
  generalize recordExports preserve m sequence (CodeImage.exports image m) t = recorded at *
  obtain ⟨hreported, hkept⟩ := h.rebindAll_reported hbatch hothers image
  have hhistory : (recorded.2.rebindings.map (·.name)).count name ≤ 1 := by
    rw [rebindings, List.map_map]
    exact List.nodup_iff_count_le_one.1 hdistinct name
  rw [mem_sortedNames, List.mem_append, hreported, h.mem_rebind _ hhistory, hkept m hself]
  constructor
  · rintro (⟨other, hother, hne⟩ | hne)
    · have hother := List.mem_filter.1 hother
      refine ⟨other, hother.1, ?_⟩
      rwa [h.cells_rebind _ _ (by simpa using hother.2)]
    · exact ⟨m, hm, hne⟩
  · rintro ⟨other, hother, hne⟩
    by_cases he : other = m
    · exact .inr (he ▸ hne)
    · rw [h.cells_rebind _ _ he] at hne
      exact .inl ⟨other, List.mem_filter.2 ⟨hother, by simpa using he⟩, hne⟩

end Interposition

end Cells

section Sites

variable {name : String} {sites : List (String × Address)}

theorem cellsOf_cons (e : String × Address) (sites : List (String × Address)) :
    cellsOf name (e :: sites) = if e.1 = name then e.2 :: cellsOf name sites
      else cellsOf name sites := by
  by_cases he : e.1 = name <;> simp [cellsOf, he]

theorem head?_cellsOf : (cellsOf name sites).head? = sites.lookup name := by
  induction sites with
  | nil => rfl
  | cons e sites ih =>
    rw [cellsOf_cons, List.lookup_cons]
    by_cases he : e.1 = name
    · simp [he]
    · rw [if_neg he, beq_false_of_ne (Ne.symm he), ih]

theorem cellsOf_redirect (other : String) (a : Address) :
    cellsOf other (sites.map fun e => if e.1 = name then (e.1, a) else e) =
      if name = other then (cellsOf other sites).map fun _ => a else cellsOf other sites := by
  induction sites with
  | nil => simp [cellsOf]
  | cons e sites ih =>
    rw [List.map_cons, cellsOf_cons, cellsOf_cons, ih]
    by_cases he : e.1 = name <;> by_cases ho : name = other <;> simp [he, ho]
    grind

/-- A cell that holds the address already is as if it were written. -/
theorem MappedModule.cellsOf_rebindName (r : Rebinding) (sites : List (String × Address))
    (other : String) : cellsOf other (rebindName r sites).2 =
      if r.name = other then (cellsOf other sites).map fun _ => r.address
      else cellsOf other sites := by
  induction sites with
  | nil => simp [rebindName, cellsOf]
  | cons e sites ih =>
    simp only [rebindName]
    split
    · rename_i he
      rw [cellsOf_cons, cellsOf_cons, ih, he.1]
      by_cases ho : r.name = other <;> simp [ho]
    · rename_i he
      rw [cellsOf_cons, cellsOf_cons, ih]
      by_cases ho : r.name = other
      · by_cases hs : e.1 = other
        · have ha : e.2 = r.address := by
            by_contra hne
            exact he ⟨hs.trans ho.symm, hne⟩
          simp [ho, hs, ha]
        · simp [ho, hs]
      · simp [ho]

theorem MappedModule.mem_rebindName (r : Rebinding) (sites : List (String × Address)) :
    name ∈ (rebindName r sites).1 ↔ name = r.name ∧ ∃ a ∈ cellsOf name sites, a ≠ r.address := by
  induction sites with
  | nil => simp [rebindName, cellsOf]
  | cons e sites ih =>
    simp only [rebindName]
    split
    · rename_i he
      rw [List.mem_cons, ih, cellsOf_cons, he.1]
      by_cases hname : name = r.name
      · subst hname
        simp [he.2]
      · simp [hname]
    · rename_i he
      rw [ih, cellsOf_cons]
      refine and_congr_right fun hname => ?_
      by_cases hs : e.1 = name
      · have ha : e.2 = r.address := by
          by_contra hne
          exact he ⟨hs.trans hname, hne⟩
        simp [hs, ha]
      · rw [if_neg hs]

theorem map_const_ne_iff {α : Type} {l : List α} {a : α} :
    (l.map fun _ => a) ≠ l ↔ ∃ b ∈ l, b ≠ a := by
  rw [List.map_const', ne_comm, ne_eq, List.eq_replicate_iff]
  simp

end Sites

namespace ManagedImage

theorem cells_modifyModule (image : ManagedImage) (m other : ModuleId)
    (f : LinkedModule → LinkedModule) (name : String) : (image.modifyModule m f).cells other name =
      if other = m then ((image.module? m).map fun k => cellsOf name (f k).callSites).getD []
      else image.cells other name := by
  rw [cells, module?_modifyModule]
  by_cases h : other = m
  · simp [h, Function.comp_def]
  · simp [h, cells]

/-- Redirecting one call site leaves it alone, or it led elsewhere. -/
theorem rebindOne_cases (m : ModuleId) (acc : List String × ManagedImage) (r : Rebinding) :
    rebindOne m acc r = acc ∨ ∃ k current, acc.2.module? m = some k ∧
      k.target? r.name = some current ∧ current ≠ r.address ∧
      rebindOne m acc r = (acc.1 ++ [r.name], acc.2.modifyModule m fun k =>
        { k with callSites := k.callSites.map fun e =>
            if e.1 = r.name then (e.1, r.address) else e }) := by
  cases hk : acc.2.module? m with
  | none => exact .inl (by simp [rebindOne, hk])
  | some k =>
    cases ht : k.target? r.name with
    | none => exact .inl (by simp [rebindOne, hk, ht])
    | some current =>
      by_cases hsame : current = r.address
      · exact .inl (by simp [rebindOne, hk, ht, hsame])
      · exact .inr ⟨k, current, rfl, ht, hsame, by simp [rebindOne, hk, ht, hsame]⟩

theorem reportsSteps : CodeImage.ReportsSteps ManagedImage.cells ManagedImage.rebindOne where
  rebind _ _ _ := rfl
  reported m acc r name := by
    obtain hsame | ⟨k, current, hk, ht, hne, hstep⟩ := rebindOne_cases m acc r
    · simp [hsame]
    · have hcells : acc.2.cells m name = cellsOf name k.callSites := by simp [cells, hk]
      rw [hstep, cells_modifyModule, if_pos rfl, hk, hcells, List.mem_append, List.mem_singleton]
      refine or_congr_right (iff_self_and.2 ?_)
      rintro rfl
      rw [Option.map_some, Option.getD_some, cellsOf_redirect, if_pos rfl, map_const_ne_iff]
      exact ⟨current, List.mem_of_head? (head?_cellsOf.trans ht), hne⟩
  kept m acc r other name hname := by
    obtain hsame | ⟨k, _, hk, _, _, hstep⟩ := rebindOne_cases m acc r
    · rw [hsame]
    · rw [hstep, cells_modifyModule]
      split
      · rename_i hother
        obtain hne | hne := hname
        · exact absurd hother hne
        · simp [cells, hother, hk, cellsOf_redirect, Ne.symm hne]
      · rfl

end ManagedImage

namespace MappedImage

theorem module?_modifyModule (image : MappedImage) (m other : ModuleId)
    (f : MappedModule → MappedModule) :
    (image.modifyModule m f).module? other =
      if other = m then (image.module? other).map f else image.module? other := by
  obtain ⟨n⟩ := m
  obtain ⟨k⟩ := other
  cases n <;> cases k <;> simp [module?, modifyModule, List.getElem?_modify]
  rename_i n k
  by_cases h : n = k
  · simp [h]
  · simp [h, Ne.symm h]

theorem cells_modifyModule (image : MappedImage) (m other : ModuleId)
    (f : MappedModule → MappedModule) (name : String) : (image.modifyModule m f).cells other name =
      if other = m then ((image.module? m).map fun k => cellsOf name (f k).callSites).getD []
      else image.cells other name := by
  rw [cells, module?_modifyModule]
  by_cases h : other = m
  · simp [h, Function.comp_def]
  · simp [h, cells]

theorem reportsSteps : CodeImage.ReportsSteps MappedImage.cells MappedImage.rebindOne where
  rebind _ _ _ := rfl
  reported m acc r name := by
    cases hk : acc.2.module? m with
    | none => simp [rebindOne, hk]
    | some k =>
      have hcells : acc.2.cells m name = cellsOf name k.callSites := by simp [cells, hk]
      simp only [rebindOne, hk, cells_modifyModule, if_true, Option.map_some, Option.getD_some,
        hcells, List.mem_append, MappedModule.mem_rebindName, MappedModule.cellsOf_rebindName]
      refine or_congr_right (and_congr_right fun hname => ?_)
      rw [if_pos hname.symm, map_const_ne_iff]
  kept m acc r other name hname := by
    cases hk : acc.2.module? m with
    | none => simp [rebindOne, hk]
    | some k =>
      simp only [rebindOne, hk, cells_modifyModule]
      split
      · rename_i hother
        obtain hne | hne := hname
        · exact absurd hother hne
        · simp [cells, hother, hk, MappedModule.cellsOf_rebindName, Ne.symm hne]
      · rfl

end MappedImage

namespace Interposition

theorem nodup_numbered (count : Nat) :
    ((List.range count).map fun n => (⟨n + 1⟩ : ModuleId)).Nodup := by
  refine List.nodup_range.map fun n n' h => ?_
  simpa using h

/-- What taking a loaded module in reports, in an image of either kind and with any table. -/
theorem absorb_reports {t : Interposition} (hd : t.Distinct) (preserve : Bool) :
    (∀ (image : ManagedImage) (m : ModuleId), m ∈ CodeImage.modules image →
      ∃ done, t.absorb preserve image m = .ok done ∧
        done.ReportsChanges ManagedImage.cells preserve image m) ∧
    ∀ (image : MappedImage) (m : ModuleId), m ∈ CodeImage.modules image →
      ∃ done, t.absorb preserve image m = .ok done ∧
        done.ReportsChanges MappedImage.cells preserve image m := by
  constructor
  · intro image m hm
    obtain ⟨n, hn, rfl⟩ := List.mem_map.1 hm
    have hs : CodeImage.sequence? image ⟨n + 1⟩ = some (n + 1) := by
      have hk := List.getElem?_eq_getElem (List.mem_range.1 hn)
      simp [CodeImage.sequence?, ManagedImage.module?, hk]
    exact reportsChanges_absorb ManagedImage.reportsSteps hd preserve hs (nodup_numbered _) hm
  · intro image m hm
    obtain ⟨n, hn, rfl⟩ := List.mem_map.1 hm
    have hs : CodeImage.sequence? image ⟨n + 1⟩ = some (n + 1) := by
      have hk := List.getElem?_eq_getElem (List.mem_range.1 hn)
      simp [CodeImage.sequence?, MappedImage.module?, hk]
    exact reportsChanges_absorb MappedImage.reportsSteps hd preserve hs (nodup_numbered _) hm

/-- A module with two cells for a name, and a later one that provides the name and was linked to old
definitions itself. -/
def twoMapped : MappedImage where
  modules :=
    [⟨"early", [⟨"f", ⟨0x1000⟩, ⟨1⟩, .function⟩], [("f", ⟨0x1000⟩), ("f", ⟨0x2000⟩)], []⟩,
      ⟨"late", [⟨"f", ⟨0x2000⟩, ⟨2⟩, .function⟩], [("g", ⟨0x30⟩), ("h", ⟨0x50⟩)], []⟩]

def known : Interposition :=
  ⟨[("g", ⟨⟨0x40⟩, ⟨1⟩, 1⟩), ("h", ⟨⟨0x50⟩, ⟨1⟩, 1⟩)]⟩

/-- One of the two cells changes, and one of the two names is led elsewhere. -/
theorem absorb_reports_known :
    (∃ done, known.absorb true twoMapped ⟨2⟩ = .ok done ∧
      twoMapped.cells ⟨1⟩ "f" = [⟨0x1000⟩, ⟨0x2000⟩] ∧
      done.image.cells ⟨1⟩ "f" = [⟨0x2000⟩, ⟨0x2000⟩] ∧
      "f" ∈ done.rebound ∧ "g" ∈ done.rebound ∧ "h" ∉ done.rebound) ∧
    ∃ done, known.absorb true SlotPolicy.twoShapes.image ⟨2⟩ = .ok done ∧
      "Shape.area" ∈ done.rebound := by
  obtain ⟨hmanaged, hmapped⟩ := absorb_reports (by unfold Distinct; decide : known.Distinct) true
  constructor
  · obtain ⟨done, hdone, hreports⟩ := hmapped twoMapped ⟨2⟩ (by decide)
    have hcells : (known.absorb true twoMapped ⟨2⟩).map (fun done =>
        (done.image.cells ⟨1⟩ "f", done.image.cells ⟨2⟩ "g", done.image.cells ⟨1⟩ "h",
          done.image.cells ⟨2⟩ "h")) = .ok ([⟨0x2000⟩, ⟨0x2000⟩], [⟨0x40⟩], [], [⟨0x50⟩]) := rfl
    rw [hdone] at hcells
    obtain ⟨hf, hg, hearly, hlate⟩ : done.image.cells ⟨1⟩ "f" = [⟨0x2000⟩, ⟨0x2000⟩] ∧
        done.image.cells ⟨2⟩ "g" = [⟨0x40⟩] ∧ done.image.cells ⟨1⟩ "h" = [] ∧
        done.image.cells ⟨2⟩ "h" = [⟨0x50⟩] := by
      simpa [Except.map] using hcells
    refine ⟨done, hdone, by decide, hf, (hreports.mem_iff "f" (by decide)).2 ⟨⟨1⟩, by decide, ?_⟩,
      (hreports.mem_iff "g" (by decide)).2 ⟨⟨2⟩, by decide, ?_⟩, fun hreported => ?_⟩
    · rw [hf]
      decide
    · rw [hg]
      decide
    · obtain ⟨other, hother, hne⟩ := (hreports.mem_iff "h" (by decide)).1 hreported
      have hmodules : other ∈ [(⟨1⟩ : ModuleId), ⟨2⟩] := hother
      rcases List.mem_cons.1 hmodules with rfl | hmodules
      · exact hne (hearly.trans (by decide))
      · obtain rfl := List.mem_singleton.1 hmodules
        exact hne (hlate.trans (by decide))
  · obtain ⟨done, hdone, hreports⟩ := hmanaged SlotPolicy.twoShapes.image ⟨2⟩ (by decide)
    have hcells : (known.absorb true SlotPolicy.twoShapes.image ⟨2⟩).map (fun done =>
        done.image.cells ⟨1⟩ "Shape.area") = .ok [⟨0x1020⟩] := rfl
    rw [hdone] at hcells
    have hafter : done.image.cells ⟨1⟩ "Shape.area" = [⟨0x1020⟩] := Except.ok.inj hcells
    refine ⟨done, hdone, (hreports.mem_iff "Shape.area" (by decide)).2 ⟨⟨1⟩, by decide, ?_⟩⟩
    rw [hafter]
    decide

end Interposition

end HotReload

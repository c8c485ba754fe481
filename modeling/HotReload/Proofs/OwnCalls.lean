import HotReload.Proofs.Callable
import HotReload.Proofs.Recorded

/-! # Calls of a module to its own definitions

Linking leads the calls of a module to the names that it defines to its own definitions. Taking the
module in replays the table of newest implementations into it, and the table knows patchable code
only. A definition that is not patchable loses the calls to its name as soon as there is a patchable
one.
-/

namespace HotReload

open Interposition (Provides)
open Managed (Process)

theorem lookup_filterMap {α β : Type} [BEq α] [LawfulBEq α] (f : α → Option β) (a : α)
    (keys : List α) :
    (keys.filterMap fun k => (f k).map fun b => (k, b)).lookup a =
      if a ∈ keys then f a else none := by
  induction keys with
  | nil => rfl
  | cons k keys ih =>
    rw [List.filterMap_cons]
    by_cases ha : a = k
    · subst ha
      cases hf : f a with
      | none => simp [ih, hf]
      | some b => simp
    · cases f k with
      | none => simp [ih, ha]
      | some b => simp [List.lookup_cons, ih, ha, beq_false_of_ne ha]

namespace ManagedImage

variable {image : ManagedImage} {name : String} {a : Address}

theorem target?_linked {m : ModuleSpec Body} (h : (image.linked m).address? name = some a) :
    (image.linked m).target? name = some a := by
  obtain ⟨s, hs, rfl, _⟩ := LinkedModule.exists_of_address? false h
  have hsites : (image.linked m).target? s.name = _ := lookup_filterMap
    (fun name => ((image.linked m).address? name).or (image.firstExport? name)) s.name _
  rw [hsites, if_pos, h]
  · rfl
  · apply List.mem_append_left
    exact List.mem_eraseDups.2 (List.mem_map_of_mem hs)

end ManagedImage

section Load

variable {r : Reloader} {w : Process} {loop : MainLoop} {path : Path} {report : LoadReport}

namespace Reloader.Landed

variable {after : Loaded ManagedImage} {m : ModuleId} {before : ManagedImage}
  {spec : ModuleSpec Body} {done : Interposition.Absorbed ManagedImage}

/-- The module's calls to a name that it defines lead where the table says, or to its own
definition. -/
theorem callSite?_own (h : Landed r w after m before spec done) (hdistinct : r.table.Distinct)
    {name : String} {own : Address} (hown : (before.linked spec).address? name = some own) :
    CodeImage.callSite? after.world.image m name =
      some ((after.reloader.table.address? name).getD own) := by
  have hlinked : CodeImage.callSite? (before.link spec).2 m name = some own := by
    simp [CodeImage.callSite?, h.module?.1, ManagedImage.target?_linked hown]
  have hdone : CodeImage.callSite? done.image m name =
      some ((done.table.address? name).getD own) := by
    rw [Interposition.callSite?_absorb_self hdistinct h.absorbed, h.confined.callSite?, hlinked]
    rfl
  rw [h.reloader]
  -- What runs after the module was taken in adds modules and writes no call site.
  have hgrows := h.kept _ Managed.grows_held.toKept
  obtain ⟨k, hk, hsite⟩ := Option.bind_eq_some_iff.1 hdone
  simpa [CodeImage.callSite?, ManagedImage.module?_of_isPrefix hgrows hk] using hsite

theorem provides (h : Landed r w after m before spec done) (preserve : Bool) (name : String) :
    (∃ other, Provides preserve (before.link spec).2 other name) ↔
      ∃ other, other.number ≤ m.number ∧ Provides preserve after.world.image other name := by
  have hexports {other : ModuleId} {k : LinkedModule}
      (hk : (before.link spec).2.module? other = some k) :
      CodeImage.exports after.world.image other = CodeImage.exports (before.link spec).2 other := by
    obtain ⟨k', hk', he⟩ := h.extends_linked.module? hk
    have hsame := congrArg LinkedModule.exports he
    simp only [CodeImage.exports, hk, hk']
    exact hsame
  have hcount : (before.link spec).2.modules.length = m.number := by
    rw [h.module, ManagedImage.link_modules, List.length_append]
    rfl
  constructor
  · rintro ⟨other, s, hs, hp, hname⟩
    obtain ⟨k, hk⟩ : ∃ k, (before.link spec).2.module? other = some k := by
      cases hk : (before.link spec).2.module? other with
      | none => simp [CodeImage.exports, hk] at hs
      | some k => exact ⟨k, rfl⟩
    refine ⟨other, ?_, s, hexports hk ▸ hs, hp, hname⟩
    rw [← hcount]
    exact (ManagedImage.number_of_module? hk).2
  · rintro ⟨other, hle, s, hs, hp, hname⟩
    have hpos : 0 < other.number := by
      obtain ⟨n⟩ := other
      cases n with
      | zero => simp [CodeImage.exports, ManagedImage.module?] at hs
      | succ n => exact Nat.succ_pos n
    obtain ⟨k, hk⟩ := ManagedImage.module?_isSome hpos (hcount ▸ hle)
    exact ⟨other, s, hexports hk ▸ hs, hp, hname⟩

end Reloader.Landed

/-- After a load the module's calls to a name that it exports lead to the newest patchable
implementation of the name, and to its own definition if there is none. They lead to its own
definition just if that is patchable or no module so far provides the name. -/
theorem Hosted.callSite?_load_own (h : Hosted r w) (hr : (r.load loop w path).result = .ok report)
    {name : String} {own : Address}
    (hown : CodeImage.address? (r.load loop w path).world.image report.module name = some own) :
    let after := r.load loop w path
    let preserve := r.settings.preserveStatics
    let site := CodeImage.callSite? after.world.image report.module name
    ∃ s, SymbolCache.search after.world.image own none = some s ∧ s.name = name ∧
      s.module = report.module ∧
      site = some ((after.reloader.table.address? name).getD own) ∧
      (site = some own ↔ s.kind.patchable preserve = true ∨
        ∀ other, other.number ≤ report.module.number →
          ¬Provides preserve after.world.image other name) := by
  have hup := UpToDate.of_hosted h
  obtain ⟨before, spec, done, hlanded⟩ := Reloader.exists_landed hr
  rw [hlanded.address?] at hown
  obtain ⟨_, hvalid⟩ := hlanded.valid hup.valid
  obtain ⟨s, hs, hsymbol, hname, hpatchable⟩ := hvalid.linked.symbol?_of_address?
    r.settings.preserveStatics
    (ManagedImage.mem_modules (before.module?_nextModule spec)) hown
  have hsite := hlanded.callSite?_own h.shared.distinct hown
  have hnewest := hlanded.isNewest hup name
  have hprovides := hlanded.provides r.settings.preserveStatics name
  refine ⟨s, hlanded.search_eq hup.reliable hsymbol none, hname, ?_, hsite, ?_⟩
  · rw [hlanded.module]
    exact (before.mem_exports_linked spec hs).1
  rw [hsite, Interposition.address?, hnewest]
  cases hn : (before.link spec).2.newest? r.settings.preserveStatics name with
  | none =>
    have hnone : ¬∃ other, Provides r.settings.preserveStatics (before.link spec).2 other name := by
      rw [← ManagedImage.newest?_isSome, hn]
      exact Bool.false_ne_true
    rw [hprovides] at hnone
    refine iff_of_true rfl (.inr fun other hle hp => hnone ⟨other, hle, hp⟩)
  | some newest =>
    have hsome : ∃ other, Provides r.settings.preserveStatics (before.link spec).2 other name := by
      rw [← ManagedImage.newest?_isSome, hn]
      rfl
    obtain ⟨other, hle, hp⟩ := hprovides.1 hsome
    have haddress : some newest.address = some own ↔
        s.kind.patchable r.settings.preserveStatics = true := by
      constructor
      · intro hsame
        have hfound := hvalid.linked.symbol?_of_mem (ManagedImage.mem_of_newest? hn)
        rw [Option.some.inj hsame, hsymbol] at hfound
        rw [Option.some.inj hfound]
        exact ManagedImage.patchable_of_newest? hn
      · intro hp
        rw [ManagedImage.newest?_link, hpatchable hp, Option.some_or] at hn
        rw [← Option.some.inj hn, ← ManagedImage.address_of_symbol? hsymbol]
    exact haddress.trans ⟨.inl, fun hor => hor.resolve_right fun hnone => hnone other hle hp⟩

end Load

namespace OwnCalls

def helpers (kind : SymbolKind) : ModuleSpec Body :=
  { name := "Helpers", functions := [⟨"help", kind, .constant .unit⟩] }

def first : Loaded ManagedImage :=
  (fresh false).1.loadSpec (fresh false).2 (helpers .function)

/-- The function is defined again, as code of some kind. -/
def second (kind : SymbolKind) : Loaded ManagedImage :=
  first.reloader.loadSpec first.world (helpers kind)

theorem first_hosted : Hosted first.reloader first.world :=
  (fresh_hosted false).loadSpec _ (by decide)

theorem callSite?_load_own_function : ∃ report, (second .function).result = .ok report ∧
    CodeImage.address? (second .function).world.image report.module "help" = some ⟨0x1010⟩ ∧
    CodeImage.callSite? (second .function).world.image report.module "help" = some ⟨0x1010⟩ := by
  obtain ⟨report, hresult, hmodule⟩ : ∃ report, (second .function).result = .ok report ∧
      report.module = ⟨2⟩ := ⟨_, rfl, rfl⟩
  have hown : CodeImage.address? (second .function).world.image report.module "help" =
      some ⟨0x1010⟩ := by
    rw [hmodule]
    decide
  obtain ⟨s, hs, _, _, _, hexact⟩ :=
    Hosted.callSite?_load_own (first_hosted.staged _) hresult hown
  have hfound : SymbolCache.search (second .function).world.image ⟨0x1010⟩ none =
      some ⟨"help", ⟨0x1010⟩, ⟨2⟩, .function⟩ := by decide
  obtain rfl := Option.some.inj (hs.symm.trans hfound)
  exact ⟨report, hresult, hown, hexact.2 (.inl (by decide))⟩

/-- A module whose definition is a thunk calls the function that it replaces. -/
theorem not_callSite?_load_eq :
    ¬∀ (r : Reloader) (w : Process) (loop : MainLoop) (path : Path) (report : LoadReport)
      (name : String) (own site : Address), Hosted r w →
      (r.load loop w path).result = .ok report →
      CodeImage.address? (r.load loop w path).world.image report.module name = some own →
      CodeImage.callSite? (r.load loop w path).world.image report.module name = some site →
      site = own := by
  intro h
  obtain ⟨report, hresult, hmodule⟩ : ∃ report, (second .thunk).result = .ok report ∧
      report.module = ⟨2⟩ := ⟨_, rfl, rfl⟩
  have hsame := h _ _ loop stagePath report "help" ⟨0x1010⟩ ⟨0x1000⟩ (first_hosted.staged _) hresult
    (by rw [hmodule]; decide) (by rw [hmodule]; decide)
  cases hsame

end OwnCalls

end HotReload

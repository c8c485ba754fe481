import HotReload.Patch.Generics
import HotReload.Report

/-! # Patching a loaded module in

A module that has been loaded is patched in by changing tables alone: first the old versions of
every class that it redefines, then the specializations of every generic definition that it holds,
and last the call sites. Whatever one class does not allow is passed over.
-/

namespace HotReload

/-- What patching reads besides the image. -/
structure PatchRules where
  /-- Accessors of mutable storage stay. -/
  preserve : Bool
  lifecycleHook : String
  /-- Specializations are recorded. -/
  tracksGenerics : Bool
  recorded : Specializations

structure PatchPass (ι : Type) where
  image : ι
  cache : SymbolCache
  report : LoadReport

namespace PatchPass

variable {ι : Type} [CodeImage ι]

/-- Notes a class whose layout changed, once. -/
def mismatch (p : PatchPass ι) (name : String) : PatchPass ι :=
  if name ∈ p.report.layoutMismatches then p
  else { p with report :=
    { p.report with layoutMismatches := p.report.layoutMismatches ++ [name] } }

def swizzle (p : PatchPass ι) (old new : ClassId) : PatchPass ι :=
  let (outcome, image) := Swizzle.swizzle p.image old new fun _ => true
  { p with image, report :=
    { p.report with selectorsSwizzled := p.report.selectorsSwizzled + outcome.replaced } }

/-- Brings one old version to the new one; the flag says whether it was patched. Slot tables of
classes that derive from a generic type differ between builds, so only their selectors are. -/
def patchVersion (policy : SlotPolicy) (m : ModuleId) (info : ClassInfo) (new old : ClassId)
    (p : PatchPass ι) : Bool × PatchPass ι :=
  if info.derivesFromGeneric then
    match CodeImage.info? p.image old with
    | none => (false, p)
    | some oldInfo =>
      if (layoutChange? oldInfo info).isSome then (false, p.mismatch info.name)
      else (true, p.swizzle old new)
  else match policy.patch p.cache p.image old new m with
    | .error _ => (false, p)
    | .ok pass =>
      let p := { p with image := pass.image, cache := pass.cache }
      if pass.outcome.layoutMismatch then (false, p.mismatch info.name)
      else
        let report :=
          { p.report with slotsWritten := p.report.slotsWritten + pass.outcome.written }
        (true, { p with report }.swizzle old new)

/-- Patches the old versions of a class, and counts the class if one of them was patched. -/
def patchVersions (policy : SlotPolicy) (m : ModuleId) (info : ClassInfo) (v : Versions)
    (p : PatchPass ι) : PatchPass ι :=
  let (any, p) := v.old.foldl (fun (any, p) old =>
    let (one, p) := patchVersion policy m info v.new old p
    (any || one, p)) (false, p)
  if any then
    { p with report := { p.report with classesPatched := p.report.classesPatched + 1 } }
  else p

def list (p : PatchPass ι) (c : ClassId) (name : String) : PatchPass ι :=
  { p with report :=
    { p.report with
      classes := p.report.classes ++ [c], classNames := p.report.classNames ++ [name] } }

/-- Lists a class of the module and patches its old versions. Generic definitions are left for
later; they are collected. -/
def patchClass (policy : SlotPolicy) (m : ModuleId) (acc : List ClassId × PatchPass ι)
    (c : ClassId) : List ClassId × PatchPass ι :=
  match CodeImage.info? acc.2.image c with
  | none => acc
  | some info =>
    let p := acc.2.list c info.name
    if info.isGeneric then (acc.1 ++ [c], p)
    else match Versions.collect? p.image c with
      | none => (acc.1, p)
      | some v =>
        if v.isRedefinition then (acc.1, patchVersions policy m info v p) else (acc.1, p)

def patchGeneric (policy : SlotPolicy) (rules : PatchRules) (m : ModuleId) (p : PatchPass ι)
    (definition : ClassId) : PatchPass ι :=
  match GenericPass.patch policy rules.tracksGenerics rules.recorded p.cache p.image definition m
      rules.lifecycleHook with
  | .error _ => p
  | .ok pass =>
    let done := pass.outcome
    let r := p.report
    ⟨pass.image, pass.cache,
      { r with
        specializationsPatched := r.specializationsPatched + done.specializations
        slotsWritten := r.slotsWritten + done.slots.written
        selectorsSwizzled := r.selectorsSwizzled + done.swizzle.replaced
        classesPatched := r.classesPatched + if done.specializations > 0 then 1 else 0 }⟩

/-- Patches every class that the module redefines, then every generic definition. -/
def patchClasses (policy : SlotPolicy) (rules : PatchRules) (m : ModuleId) (p : PatchPass ι) :
    PatchPass ι :=
  let (generics, p) := (CodeImage.classesIn p.image m).foldl (patchClass policy m) ([], p)
  generics.foldl (patchGeneric policy rules m) p

end PatchPass

structure Patched (ι : Type) where
  image : ι
  cache : SymbolCache
  table : Interposition
  report : LoadReport

/-- Patches in a loaded module of the given place in load order. -/
def patchIn {ι : Type} [CodeImage ι] (rules : PatchRules) (cache : SymbolCache)
    (table : Interposition) (image : ι) (m : ModuleId) (sequence : Nat) :
    Except Failure (Patched ι) :=
  let p := PatchPass.patchClasses ⟨table, rules.preserve⟩ rules m
    ⟨image, cache, { module := m, sequence }⟩
  (table.absorb rules.preserve p.image m).map fun absorbed =>
    let unchanged := p.report.classesPatched == 0 && absorbed.rebound.isEmpty
    { image := absorbed.image
      cache := p.cache
      table := absorbed.table
      report :=
        { p.report with
          rebound := absorbed.rebound
          hint := if unchanged then some .nothingPatched else none } }

end HotReload

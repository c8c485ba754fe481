import HotReload.Managed.Link

/-! # The managed image as a code image -/

namespace HotReload.ManagedImage

/-- Redirects one call site; the name is reported when its target changes. -/
def rebindOne (m : ModuleId) (acc : List String × ManagedImage) (r : Rebinding) :
    List String × ManagedImage :=
  match (acc.2.module? m).bind (·.target? r.name) with
  | none => acc
  | some current =>
    if current = r.address then acc
    else (acc.1 ++ [r.name], acc.2.modifyModule m fun k =>
      { k with callSites := k.callSites.map fun e => if e.1 = r.name then (e.1, r.address) else e })

def rebind (image : ManagedImage) (m : ModuleId) (rs : List Rebinding) :
    List String × ManagedImage :=
  rs.foldl (rebindOne m) ([], image)

def slotAddresses (image : ManagedImage) (c : ClassId) : Except Failure (List Address) :=
  (image.classOrFail c).map fun k => k.slots.map (·.address)

def writeSlot (image : ManagedImage) (c : ClassId) (index : Nat) (a : Address) :
    Except Failure ManagedImage :=
  match image.class? c with
  | none => .error (.unknownClass c)
  | some k =>
    if index < k.slots.length then
      .ok (image.modifyClass c fun k =>
        { k with slots := k.slots.modify index fun s => { s with address := a } })
    else .error (.slotOutOfBounds c index k.slots.length)

def replaceFirst (selector : String) (a : Address) : Selectors → Selectors
  | [] => []
  | e :: es => if e.1 = selector then (e.1, a) :: es else e :: replaceFirst selector a es

def replaceSelector (image : ManagedImage) (c : ClassId) (t : SelectorTable) (selector : String)
    (a : Address) : Except Failure ManagedImage :=
  match image.class? c with
  | none => .error (.unknownClass c)
  | some k =>
    if (k.table t).any (·.1 == selector) then
      .ok (image.modifyClass c fun k =>
        match t with
        | .onInstances => { k with selectors := replaceFirst selector a k.selectors }
        | .onClass => { k with classSelectors := replaceFirst selector a k.classSelectors })
    else .error (.unknownSelector c t selector)

instance : CodeImage ManagedImage where
  loadModule := loadStaged
  modules := moduleIds
  sequence? image m := (image.module? m).map fun _ => m.number
  exports image m := ((image.module? m).map (·.exports)).getD []
  symbolAt? image m a :=
    ((image.functionAt? a).map (·.symbol)).filter (·.module == m)
  address? image m name := (image.module? m).bind (·.address? name)
  callSite? image m name := (image.module? m).bind (·.target? name)
  rebind := rebind
  classesIn image m := ((image.module? m).map (·.classes)).getD []
  classesNamed image name := image.classIdsWhere (·.info.name == name)
  classCount image := image.classes.length
  info? image c := (image.class? c).map (·.info)
  slots := slotAddresses
  writeSlot := writeSlot
  selectors image c t := (image.classOrFail c).map (·.table t)
  replaceSelector := replaceSelector
  observe image r :=
    if image.hasHook then .ok { image with recorder := some r } else .error .hookUnavailable

end HotReload.ManagedImage

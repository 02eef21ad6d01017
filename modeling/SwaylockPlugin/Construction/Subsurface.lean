import SwaylockPlugin.Construction.Surface

namespace SwaylockPlugin

open Library

/-- A handler that ignores a missing surface crashes where the surface behind its object is gone. -/
def userSurface (surface : Option SurfaceId) : Handled SurfaceId := demand .invalidPointer surface

/-- A subsurface request acts only where the surface has a parent and is not inert. -/
def withSubsurface (scene : Scene) (user : Option SurfaceId)
    (act : SurfaceId → ForwardSurface → SurfaceId → Handled Scene) : Handled Scene := do
  let id ← userSurface user
  let surface ← scene.forward id
  match surface.subsurfaceParent with
  | none => return scene
  | some parent =>
      if surface.inert then return scene
      else do
        check surface.subsurfPendingEntry.link.isSome
        act id surface parent

def setPendingEntry (scene : Scene) (id : SurfaceId) (change : SubsurfaceEntry → SubsurfaceEntry) : Scene :=
  scene.setForward id fun surface =>
    { surface with subsurfPendingEntry := change surface.subsurfPendingEntry }

def nestedSubsurfaceSetPosition (scene : Scene) (user : Option SurfaceId) (x y : Int32) : Handled Scene :=
  withSubsurface scene user fun id _ _ =>
    return setPendingEntry scene id fun entry => { entry with posX := x, posY := y }

def nestedSubsurfaceSetSync (scene : Scene) (user : Option SurfaceId) : Handled Scene :=
  withSubsurface scene user fun id _ _ =>
    return setPendingEntry scene id fun entry => { entry with isDesync := false }

def nestedSubsurfaceSetDesync (scene : Scene) (user : Option SurfaceId) : Handled Scene :=
  withSubsurface scene user fun id _ _ =>
    return setPendingEntry scene id fun entry => { entry with isDesync := true }

/-- A child is inserted right after a sibling. -/
def insertAfter (sibling child : SurfaceId) : List SurfaceId → List SurfaceId
  | [] => []
  | first :: rest =>
      if first = sibling then first :: child :: rest else first :: insertAfter sibling child rest

/-- A child is inserted right before a sibling. -/
def insertBefore (sibling child : SurfaceId) : List SurfaceId → List SurfaceId
  | [] => []
  | first :: rest =>
      if first = sibling then child :: first :: rest else first :: insertBefore sibling child rest

/-- A place request moves the child next to its parent or next to a sibling and refuses other surfaces. -/
def placeSubsurface (scene : Scene) (client : WlClientId) (user : Option SurfaceId) (sibling : SurfaceId)
    (nextToParent : SurfaceId → SurfaceState → SurfaceState)
    (nextToSibling : SurfaceId → SurfaceId → List SurfaceId → List SurfaceId) : Handled Scene := do
  let id ← userSurface user
  let other ← scene.forward sibling
  check (id != sibling)
  withSubsurface scene user fun id _ parent =>
    if parent = sibling then do
      let _ ← scene.forward parent
      return scene.setPending parent fun pending => nextToParent id (pending.without id)
    else if other.subsurfaceParent = some parent then do
      let _ ← scene.forward parent
      return scene.setPending parent fun pending =>
        let others := pending.without id
        { others with
          subsurfacesAbove := nextToSibling sibling id others.subsurfacesAbove
          subsurfacesBelow := nextToSibling sibling id others.subsurfacesBelow }
    else return scene.postError client .badSurface

def nestedSubsurfacePlaceAbove (scene : Scene) (client : WlClientId) (user : Option SurfaceId)
    (sibling : SurfaceId) : Handled Scene :=
  placeSubsurface scene client user sibling
    (fun id pending => { pending with subsurfacesAbove := id :: pending.subsurfacesAbove }) insertAfter

def nestedSubsurfacePlaceBelow (scene : Scene) (client : WlClientId) (user : Option SurfaceId)
    (sibling : SurfaceId) : Handled Scene :=
  placeSubsurface scene client user sibling
    (fun id pending => { pending with subsurfacesBelow := pending.subsurfacesBelow ++ [id] }) insertBefore

/-- The walk follows the parents of a surface to the last one, for at most the given number of steps. -/
def lastAncestor (scene : Scene) : Nat → SurfaceId → Handled SurfaceId
  | 0, _ => throw .endless
  | steps + 1, id => do
      let surface ← scene.forward id
      match surface.subsurfaceParent with
      | none => return id
      | some parent => lastAncestor scene steps parent

/-- A subsurface gets its own upstream surface with the extension objects that the globals offer. -/
def createExtSurface (globals : ForwardState) : AugmentedSurface :=
  ⟨true, globals.viewporter, globals.colorRepresentation, globals.colorManagement⟩

def subcompositorGetSubsurface (scene : Scene) (client : WlClientId) (child parent : SurfaceId) :
    Handled Scene := do
  let childSurface ← scene.forward child
  if childSurface.layerSurface.isSome || childSurface.subsurfaceParent.isSome then
    return scene.postError client .badSurface
  else do
    let ancestor ← lastAncestor scene (scene.forwardSurfaces.next + 1) parent
    if ancestor = child then return scene.postError client .badParent
    else
      let created := scene.createResource client (.subsurface (some child))
      let scene := created.1.setForward child fun surface =>
        { surface with
          subsurface := some created.2
          subsurfaceParent := some parent
          subsurfPendingEntry := { surface.subsurfPendingEntry with link := some parent }
          extSurface := createExtSurface scene.globals }
      return scene.setPending parent fun pending =>
        { pending with subsurfacesAbove := pending.subsurfacesAbove ++ [child] }

def subsurfaceHandleResourceDestroy (scene : Scene) : Option SurfaceId → Handled Scene
  | none => return scene
  | some id => destroySubsurfaceParts scene id

end SwaylockPlugin

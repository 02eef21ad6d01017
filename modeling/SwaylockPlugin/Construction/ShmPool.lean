import SwaylockPlugin.Library.Machine
import SwaylockPlugin.Library.Heap
import SwaylockPlugin.Construction.Scene

namespace SwaylockPlugin.Shm

open Library

/-- A `forwarded_shm_pool` keeps the name under which it was allocated. -/
abbrev EntryId := Nat

/-- An upstream `wl_shm_pool` keeps the name under which it was created. -/
abbrev UpstreamPool := Nat

/-- A file descriptor that was received keeps a name of its own. -/
abbrev Descriptor := Nat

/-- A file is identified by its device and its inode. -/
structure Identity where
  dev : UInt64
  ino : UInt64
  deriving DecidableEq

/-- This is the `forwarded_shm_pool` structure, of which the link is in the list of pools or only initialised. -/
structure ForwardedShmPool where
  linked : Bool
  dev : UInt64
  ino : UInt64
  pool : UpstreamPool
  size : Int
  refcount : Int

/-- The compositor knows a live pool by the sizes it was given, with the last one first. -/
structure UpstreamShmPool where
  sizes : List Int

/-- A nested `wl_shm_pool` belongs to a client and has an entry as its user data. -/
structure PoolResource where
  client : WlClientId
  entry : EntryId

/-- The pools consist of the entries with their list, the nested resources, the upstream pools and the descriptors that
are open. -/
structure ShmScene where
  entries : Heap ForwardedShmPool
  shmPools : List EntryId
  resources : Heap PoolResource
  upstream : Heap UpstreamShmPool
  descriptors : Heap Unit

namespace ShmScene

/-- No pool exists. -/
def empty : ShmScene := ⟨.empty, [], .empty, .empty, .empty⟩

def entry (scene : ShmScene) (id : EntryId) : Handled ForwardedShmPool :=
  demand .invalidPointer (scene.entries.cell id)

def setEntry (scene : ShmScene) (id : EntryId) (change : ForwardedShmPool → ForwardedShmPool) : ShmScene :=
  { scene with entries := scene.entries.modify id change }

end ShmScene

/-- A descriptor is closed while it is open. -/
def close (scene : ShmScene) (fd : Descriptor) : Handled ShmScene := do
  let _ ← demand Halt.invalidPointer (scene.descriptors.cell fd)
  return { scene with descriptors := scene.descriptors.free fd }

/-- The `wl_shm_pool_resize` request is made for a live pool. -/
def wlShmPoolResize (scene : ShmScene) (pool : UpstreamPool) (size : Int) : Handled ShmScene := do
  let _ ← demand Halt.invalidPointer (scene.upstream.cell pool)
  return { scene with upstream := scene.upstream.modify pool fun record => { record with sizes := size :: record.sizes } }

/-- The `wl_shm_pool_destroy` request is made once for a live pool. -/
def wlShmPoolDestroy (scene : ShmScene) (pool : UpstreamPool) : Handled ShmScene := do
  let _ ← demand Halt.invalidPointer (scene.upstream.cell pool)
  return { scene with upstream := scene.upstream.free pool }

/-- A request for a larger size than before makes the upstream pool of an entry grow. -/
def growPool (scene : ShmScene) (id : EntryId) (size : Int) : Handled ShmScene := do
  let entry ← scene.entry id
  if size > entry.size then do
    let scene ← wlShmPoolResize scene entry.pool size
    return scene.setEntry id fun entry => { entry with size := size }
  else return scene

/-- The loop of `shm_create_pool` looks for the first entry with the identity of a file. -/
def findEntry (scene : ShmScene) (identity : Identity) : List EntryId → Handled (Option EntryId)
  | [] => return none
  | id :: rest => do
      let entry ← scene.entry id
      if entry.dev != identity.dev || entry.ino != identity.ino then findEntry scene identity rest
      else return some id

/-- A file without an identity is not looked for. -/
def lookup (scene : ShmScene) : Option Identity → Handled (Option EntryId)
  | none => return none
  | some identity => findEntry scene identity scene.shmPools

/-- A nested pool gets its entry as its user data. -/
def addResource (scene : ShmScene) (client : WlClientId) (entry : EntryId) : ShmScene :=
  { scene with resources := scene.resources.alloc ⟨client, entry⟩ }

/-- An existing entry gets another nested pool. -/
def reuseEntry (scene : ShmScene) (client : WlClientId) (fd : Descriptor) (size : Int) (id : EntryId) :
    Handled ShmScene := do
  let scene ← growPool scene id size
  let scene := scene.setEntry id fun entry => { entry with refcount := entry.refcount + 1 }
  let scene ← close scene fd
  return addResource scene client id

/-- The new entry is in the list where its file has an identity. -/
def newEntry (pool : UpstreamPool) (size : Int) : Option Identity → ForwardedShmPool
  | some identity => ⟨true, identity.dev, identity.ino, pool, size, 1⟩
  | none => ⟨false, 0, 0, pool, size, 1⟩

/-- A new entry comes with an upstream pool. -/
def createEntry (scene : ShmScene) (client : WlClientId) (fd : Descriptor) (size : Int) (identity : Option Identity) :
    Handled ShmScene := do
  let _ ← demand Halt.invalidPointer (scene.descriptors.cell fd)
  let pool := scene.upstream.next
  let scene := { scene with upstream := scene.upstream.alloc ⟨[size]⟩ }
  let scene ← close scene fd
  let id := scene.entries.next
  let scene := { scene with
    entries := scene.entries.alloc (newEntry pool size identity)
    shmPools := if identity.isSome then id :: scene.shmPools else scene.shmPools }
  return addResource scene client id

/-- This is the `shm_create_pool` operation, in which the memory for the resource or for the entry may be missing. -/
def shmCreatePool (scene : ShmScene) (client : WlClientId) (fd : Descriptor) (size : Int) (identity : Option Identity)
    (resourceCreated allocated : Bool) : Handled ShmScene :=
  if !resourceCreated then close scene fd
  else do
    match ← lookup scene identity with
    | some id => reuseEntry scene client fd size id
    | none =>
        if !allocated then close scene fd
        else createEntry scene client fd size identity

/-- This is the `nested_shm_pool_resize` operation for the user data of its resource. -/
def nestedShmPoolResize (scene : ShmScene) (resource : ResourceId) (size : Int) : Handled ShmScene := do
  let record ← demand .invalidPointer (scene.resources.cell resource)
  growPool scene record.entry size

/-- This is the part of the `nested_shm_pool_create_buffer` operation that uses the pool. -/
def nestedShmPoolCreateBuffer (scene : ShmScene) (resource : ResourceId) : Handled ShmScene := do
  let record ← demand .invalidPointer (scene.resources.cell resource)
  let entry ← scene.entry record.entry
  let _ ← demand Halt.invalidPointer (scene.upstream.cell entry.pool)
  return scene

/-- This is the `shm_pool_handle_resource_destroy` operation, after which the resource is gone. -/
def shmPoolHandleResourceDestroy (scene : ShmScene) (resource : ResourceId) : Handled ShmScene := do
  let record ← demand .invalidPointer (scene.resources.cell resource)
  let scene := { scene with resources := scene.resources.free resource }
  let entry ← scene.entry record.entry
  let scene := scene.setEntry record.entry fun entry => { entry with refcount := entry.refcount - 1 }
  if entry.refcount - 1 > 0 then return scene
  else do
    let scene ← wlShmPoolDestroy scene entry.pool
    return { scene with
      shmPools := if entry.linked then scene.shmPools.erase record.entry else scene.shmPools
      entries := scene.entries.free record.entry }

/-- A client that is gone has its resources destroyed one after the other. -/
def wlClientDestroy (scene : ShmScene) (client : WlClientId) : Handled ShmScene :=
  (List.range scene.resources.next).foldlM (fun scene resource =>
    if (scene.resources.cell resource).any fun record => record.client == client then
      shmPoolHandleResourceDestroy scene resource
    else return scene) scene

/-- A plugin makes a request for a pool or is gone. -/
inductive ShmEvent where
  | createPool (client : WlClientId) (size : Int) (identity : Option Identity) (resourceCreated allocated : Bool)
  | createBuffer (resource : ResourceId)
  | resize (resource : ResourceId) (size : Int)
  | destroy (resource : ResourceId)
  | disconnect (client : WlClientId)

/-- An event runs its handler, where a new pool comes with an open descriptor. -/
def handleShm (scene : ShmScene) : ShmEvent → Handled ShmScene
  | .createPool client size identity resourceCreated allocated =>
      shmCreatePool { scene with descriptors := scene.descriptors.alloc () } client scene.descriptors.next size identity
        resourceCreated allocated
  | .createBuffer resource => nestedShmPoolCreateBuffer scene resource
  | .resize resource size => nestedShmPoolResize scene resource size
  | .destroy resource => shmPoolHandleResourceDestroy scene resource
  | .disconnect client => wlClientDestroy scene client

/-- A plugin names only pools that it has. -/
def shmEnabled (scene : ShmScene) : ShmEvent → Bool
  | .createPool _ _ _ _ _ | .disconnect _ => true
  | .createBuffer resource | .resize resource _ | .destroy resource => scene.resources.live resource

def sharing : Program ShmScene ShmEvent Halt where
  initial scene := scene = .empty
  enabled scene event := shmEnabled scene event = true
  decideEnabled _ _ := inferInstance
  next := handleShm

end SwaylockPlugin.Shm

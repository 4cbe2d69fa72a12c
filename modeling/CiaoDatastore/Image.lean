import CiaoDatastore.Store

/-! Images: `AddImage`, `UpdateImage`, `GetImage`, `ResolveImage`, `GetImages` and
`DeleteImage`. An image with a tenant id is listed under its tenant, whatever its visibility,
and a public or internal one is also listed in `publicImages` or `internalImages`.
`ResolveImage` reads `images` under the tenants lock only. `DeleteImage` never asks the store
to delete the image. -/
namespace CiaoDatastore
namespace Datastore
variable {σ : Type} (P : PersistentStore σ)

/-- The first image of `ids`, looked up in `images` (an absent id looks up the zero `Image`),
whose name or id is `name`; its id. -/
def findImage (c : Cache) (name : String) (ids : List String) : Option String :=
  (ids.map fun id => (c.images.get id).getD default).find? (fun i => i.name = name ∨ i.id = name)
    |>.map (·.id)

/-- `ResolveImage`: the tenant's images (unless the tenant is empty or `admin`), then the
public, then the internal ones. -/
def resolveImage (c : Cache) (tenantID name : String) : Except Error String :=
  let own : Except Error (Option String) :=
    if tenantID ≠ "" ∧ tenantID ≠ "admin" then
      match c.tenants.get tenantID with
      | none => .error (.new ("Tenant not found: " ++ tenantID))
      | some t => .ok (findImage c name t.images)
    else .ok none
  match own with
  | .error e => .error e
  | .ok (some id) => .ok id
  | .ok none =>
    match findImage c name c.publicImages with
    | some id => .ok id
    | none =>
      match findImage c name c.internalImages with
      | some id => .ok id
      | none => .error (.sentinel .errNoImage)

/-- The check `AddImage` and `UpdateImage` make of a name or id: `none` when it resolves to no
image, the error to return otherwise. -/
def unresolved (c : Cache) (tenantID name : String) : Option Error :=
  match resolveImage c tenantID name with
  | .ok _ => some (.sentinel .errAlreadyExists)
  | .error e => if e = .sentinel .errNoImage then none else some e

/-- Caches an image and lists it as public or internal, as its visibility says. -/
def indexImage (c : Cache) (i : Image) : Cache :=
  {c with
    images := c.images.insert i.id i
    publicImages := if i.visibility = publicVisibility then c.publicImages ++ [i.id] else c.publicImages
    internalImages :=
      if i.visibility = internalVisibility then c.internalImages ++ [i.id] else c.internalImages}

/-- The list of the image's tenant, when it has one, rewritten by `f`: appended to by
`AddImage`, erased from by `DeleteImage`; `none` when that tenant is not cached. -/
def relistImage (c : Cache) (i : Image) (f : List String → List String) : Option Cache :=
  if i.tenantID = "" then some c else
  match c.tenants.get i.tenantID with
  | none => none
  | some t => some {c with tenants := c.tenants.insert i.tenantID {t with images := f t.images}}

def addImage (ds : Datastore σ) (i : Image) : Datastore σ × Option Error :=
  if i.id ∈ ds.cache.images.keys then (ds,some (.sentinel .errAlreadyExists)) else
  match unresolved ds.cache i.tenantID i.name with
  | some e => (ds,some e)
  | none =>
    match unresolved ds.cache i.tenantID i.id with
    | some e => (ds,some e)
    | none =>
      let (ds,err) := ds.call P (.updateImage i)
      match err with
      | some e => (ds,some (.wrap "Unable to add image to database" e))
      | none =>
        match relistImage ds.cache i (· ++ [i.id]) with
        | none => ((ds.call P (.deleteImage i.id)).1,some (.sentinel .errTenantNotFound))
        | some c => (ds.withCache (indexImage c i),none)

def updateImage (ds : Datastore σ) (i : Image) : Datastore σ × Option Error :=
  match ds.cache.images.get i.id with
  | none => (ds,some (.sentinel .errNoImage))
  | some oldImage =>
    if oldImage.tenantID ≠ i.tenantID ∨ oldImage.visibility ≠ i.visibility then
      (ds,some (.new "Changing visibility or tenant for image not permitted"))
    else
      match (if oldImage.name ≠ i.name then unresolved ds.cache i.tenantID i.name else none) with
      | some e => (ds,some e)
      | none =>
        let (ds,err) := ds.call P (.updateImage i)
        match err with
        | some e => (ds,some (.wrap "Error updating image in database" e))
        | none => (ds.withCache {ds.cache with images := ds.cache.images.insert i.id i},none)

def getImage (c : Cache) (id : String) : Except Error Image :=
  match c.images.get id with
  | some i => .ok i
  | none => .error (.sentinel .errNoImage)

/-- `GetImages`: the tenant's images, the internal ones for an admin, then the public ones. -/
def getImages (c : Cache) (tenantID : String) (admin : Bool) : Except Error (List Image) :=
  let lookup := fun id => (c.images.get id).getD default
  let own : Except Error (List Image) :=
    if tenantID = "" then .ok [] else
    match c.tenants.get tenantID with
    | none => .error (.sentinel .errTenantNotFound)
    | some t => .ok (t.images.map lookup)
  match own with
  | .error e => .error e
  | .ok own => .ok (own ++ (if admin then c.internalImages.map lookup else []) ++ c.publicImages.map lookup)

def deleteImage (ds : Datastore σ) (id : String) : Datastore σ × Option Error :=
  match ds.cache.images.get id with
  | none => (ds,some (.sentinel .errNoImage))
  | some image =>
    match relistImage ds.cache image (·.erase id) with
    | none => (ds,some (.sentinel .errTenantNotFound))
    | some c =>
      (ds.withCache {c with
        internalImages :=
          if image.visibility = internalVisibility then c.internalImages.erase id else c.internalImages
        publicImages := if image.visibility = publicVisibility then c.publicImages.erase id else c.publicImages
        images := c.images.delete id},none)

end Datastore
end CiaoDatastore

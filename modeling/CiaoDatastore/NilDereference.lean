import CiaoDatastore.RowStore

/-! Where the datastore dereferences an entry it has not found. Several calls index a cache
map with their argument and use the result without checking it: `DeleteNode` ranges over the
instances of `nodes[nodeID]`, `InstanceStopped` writes through `instances[instanceID]`,
`AddBlockDevice` writes into the device map of `tenants[device.TenantID]`; on an absent entry
each is a nil dereference. `DeleteInstance` checks its instance with `GetInstance`, but the
check and the removal are separate sections: two concurrent calls can both pass the check, and
the second then reads the instance the first removed. The concurrent model cuts a call into
those two sections and runs two calls along a schedule of sections. -/
namespace CiaoDatastore
namespace Datastore
variable {σ : Type} (P : PersistentStore σ)

/-- Where one `DeleteInstance` call stands: before its `GetInstance` check, after it with the
node id it read, returned, or panicked. -/
inductive DeleteThread
  | start
  | checked (nodeID : String)
  | returned (err : Option Error)
  | panicked
  deriving DecidableEq, Repr

/-- The next section of a `DeleteInstance(instanceID)` call on the shared datastore: the
`GetInstance` check, then `deleteInstance` and the event log write. -/
def deleteSection (instanceID : String) (order : List Attachment) (ds : Datastore σ) :
    DeleteThread → Datastore σ × DeleteThread
  | .start =>
    match getInstance ds.cache instanceID with
    | .error e => (ds,.returned (some (.wrap "error deleting instance" e)))
    | .ok ptr => (ds,.checked (ds.cache.heap ptr).nodeID)
  | .checked nodeID =>
    match ds.deleteInstance P instanceID order with
    | none => (ds,.panicked)
    | some (ds,_,some e) => (ds,.returned (some (.wrap "error deleting instance" e)))
    | some (ds,tenantID,none) =>
      let (ds,err) := ds.call P (.logEvent ⟨tenantID,"info","Deleted Instance " ++ instanceID,nodeID⟩)
      (ds,.returned (Error.wrapNil "Error logging event" err))
  | done => (ds,done)

/-- What a finished call answers: its error, or `none` when it panicked. -/
def DeleteThread.outcome (ds : Datastore σ) : DeleteThread → Option (Datastore σ × Option Error)
  | .returned err => some (ds,err)
  | _ => none

private theorem deleteSection_alone (instanceID : String) (order : List Attachment) (ds : Datastore σ) :
    (deleteSection P instanceID order (deleteSection P instanceID order ds .start).1
      (deleteSection P instanceID order ds .start).2).2.outcome
      (deleteSection P instanceID order (deleteSection P instanceID order ds .start).1
        (deleteSection P instanceID order ds .start).2).1 =
    ds.DeleteInstance P instanceID order := by
  unfold DeleteInstance
  cases checked : getInstance ds.cache instanceID with
  | error e => simp [deleteSection,checked,DeleteThread.outcome]
  | ok ptr =>
    simp only [deleteSection,checked]
    cases deleteInstance P ds instanceID order with
    | none => rfl
    | some result =>
      obtain ⟨ds',tenantID,err⟩ := result
      cases err <;> rfl

/-- Two `DeleteInstance(instanceID)` calls run along a schedule of sections, `true` for a
section of the first call and `false` for one of the second. -/
def interleave (instanceID : String) (order : List Attachment) :
    List Bool → Datastore σ × DeleteThread × DeleteThread → Datastore σ × DeleteThread × DeleteThread
  | [],state => state
  | true :: rest,(ds,first,second) =>
    let (ds,first) := deleteSection P instanceID order ds first
    interleave instanceID order rest (ds,first,second)
  | false :: rest,(ds,first,second) =>
    let (ds,second) := deleteSection P instanceID order ds second
    interleave instanceID order rest (ds,first,second)

/-- A tenant and one of its instances, which has no node, address or volume. -/
def liveInstance : List Op :=
  [.addTenant "t" ⟨"t",24⟩,.addInstance {(default : Instance) with id := "i", tenantID := "t"} 0]

/-- Both calls pass the `GetInstance` check before either removes the instance. The first
removes it; the second's store delete of the absent row succeeds, and it then reads the nil
`instances["i"]` and panics. Serialised, the second call returns the not-found error. -/
theorem concurrent_delete_dereferences_removed : ∃ ds ds₁ ds₂,
    runOps rowStore (fun _ _ => true) emptyDatastore liveInstance = some ds ∧
    interleave rowStore "i" [] [true,false,true,false] (ds,.start,.start) = (ds₁,.returned none,.panicked) ∧
    interleave rowStore "i" [] [true,true,false,false] (ds,.start,.start) =
      (ds₂,.returned none,.returned (some (.wrap "error deleting instance" (.sentinel .errInstanceNotFound)))) :=
  ⟨_,_,_,rfl,rfl,rfl⟩

/-- On `Init` of the empty store, `DeleteNode` of an absent node, `InstanceStopped` of an
absent instance and `AddBlockDevice` of a volume whose tenant is not cached each dereference a
nil entry. -/
theorem absent_entries_dereferenced :
    (Op.deleteNode "n").run rowStore emptyDatastore = none ∧
    (Op.instanceStopped "i" 0).run rowStore emptyDatastore = none ∧
    (Op.addBlockDevice ⟨"v","t",available⟩).run rowStore emptyDatastore = none :=
  ⟨rfl,rfl,rfl⟩

end Datastore
end CiaoDatastore

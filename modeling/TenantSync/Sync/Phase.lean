import TenantSync.Graph.Kind

/-! # Sides and phases of a run

A run reads the source, reads the destination, deletes from the destination and inserts
into it. -/

namespace TenantSync

/-- The two tenants of a run. -/
inductive Side where
  | source
  | destination
  deriving DecidableEq, Repr

/-- The name of a side, also the stem of its options. -/
def Side.text : Side → String
  | source => "source"
  | destination => "destination"

instance : ToString Side := ⟨Side.text⟩

/-- What is done to an entity of the destination. -/
inductive Operation where
  | create
  | delete
  deriving DecidableEq, Repr

/-- The operation as a verb. -/
def Operation.text : Operation → String
  | create => "create"
  | delete => "delete"

instance : ToString Operation := ⟨Operation.text⟩

/-- The steps of a run, in order. -/
inductive Phase where
  | fetchSource
  | fetchDestination
  | delete
  | insert
  deriving DecidableEq, Repr

namespace Phase

/-- The phase in which an operation is applied. -/
def ofOperation : Operation → Phase
  | .create => insert
  | .delete => delete

/-- The phase as a headline. -/
def title : Phase → String
  | fetchSource => "Fetching source"
  | fetchDestination => "Fetching destination"
  | delete => "Deletion phase"
  | insert => "Insertion phase"

/-- What the phase produces. -/
def noun : Phase → String
  | fetchSource | fetchDestination => "fetch"
  | delete => "deletions"
  | insert => "insertions"

/-- What the phase is doing. -/
def verb : Phase → String
  | fetchSource | fetchDestination => "Fetching"
  | delete => "Deleting"
  | insert => "Inserting"

/-- What the phase has done. -/
def pastTense : Phase → String
  | fetchSource | fetchDestination => "Fetched"
  | delete => "Deleted"
  | insert => "Inserted"

/-- The order in which the phase goes through the kinds. -/
def order : Phase → List Kind
  | delete => Kind.deleteOrder
  | _ => Kind.insertOrder

end Phase

end TenantSync

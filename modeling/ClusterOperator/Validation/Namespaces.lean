import ClusterOperator.Validation.Name

namespace ClusterOperator

/-- Checks the names of one list in order; `seen` holds those before. -/
def checkNamespacesAfter (field : String) : List String → List String → Verdict
  | _, [] => .ok ()
  | seen, name :: rest =>
      if !isDnsName name then .error (.malformed field name)
      else if name ∈ seen then .error (.repeatedNamespace field name)
      else checkNamespacesAfter field (name :: seen) rest

/-- The names of one list are DNS names and differ from each other. -/
def checkNamespaces (field : String) (names : List String) : Verdict :=
  checkNamespacesAfter field [] names

/-- Both lists are in order, and no name is in both. A missing list counts as an empty one. -/
def checkNamespaceRange (included excluded : Option (List String)) : Verdict := do
  let included := included.getD []
  let excluded := excluded.getD []
  checkNamespaces "IncludedNamespaces" included
  checkNamespaces "ExcludedNamespaces" excluded
  if excluded.any (· ∈ included) then .error .overlap else .ok ()

/-- Collects the locations after `kept`, which holds the distinct ones before, last first. -/
def collectLocations : List String → List String → Except Violation (List String)
  | kept, [] => .ok kept.reverse
  | kept, location :: rest =>
      if !isDnsName location then .error (.malformed "VolumeSnapshotLocations" location)
      else if location ∈ kept then collectLocations kept rest
      else collectLocations (location :: kept) rest

/-- The locations in the order in which each first occurs. All are DNS names, and there is at least
one if one is needed. -/
def distinctLocations (needed : Bool) (locations : Option (List String)) :
    Except Violation (List String) :=
  let locations := locations.getD []
  if needed ∧ locations.isEmpty then .error .noLocations else collectLocations [] locations

end ClusterOperator

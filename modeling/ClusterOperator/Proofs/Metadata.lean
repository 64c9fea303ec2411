import ClusterOperator.Metadata
import ClusterOperator.Proofs.Json.Records

namespace ClusterOperator

open Json

namespace OwnerReference

def table (owner : OwnerReference) : List (String × Option Json) :=
  [("apiVersion", some (.str owner.apiVersion)),
    ("blockOwnerDeletion", owner.blockOwnerDeletion.map .bool),
    ("controller", owner.controller.map .bool), ("kind", some (.str owner.kind)),
    ("name", some (.str owner.name)), ("uid", some (.str owner.uid))]

theorem toJson_eq (owner : OwnerReference) : owner.toJson = .obj (present owner.table) := by
  obtain ⟨apiVersion, kind, name, uid, controller, block⟩ := owner
  cases controller <;> cases block <;> rfl

theorem isPlain_toJson (owner : OwnerReference) : owner.toJson.IsPlain := by
  rw [toJson_eq]
  exact (plainTable_nil.some (.str _) |>.some (.str _) |>.some (.str _) |>.optional .bool _
    |>.optional .bool _ |>.some (.str _)).isPlain

theorem yields_lenientText {table : List (String × Option Outline)} {key value : String}
    (h : table.lookup key = some (some (outline (.str value)))) :
    (lenientText key).Yields table value := by
  have hoptional : (Fields.optional key Decode.text).Yields table (some value) :=
    .optional h (fun _ _ => rfl) nofun
  exact .map (·.getD "") hoptional

theorem decode_toJson (owner : OwnerReference) : decode (outline owner.toJson) = .ok owner := by
  have hversion : (lenientText "apiVersion").Yields (outlined owner.table) owner.apiVersion :=
    yields_lenientText rfl
  have hblock : (Fields.optional "blockOwnerDeletion" Decode.flag).Yields (outlined owner.table)
      owner.blockOwnerDeletion := .optional rfl (fun _ _ => rfl) nofun
  have hcontroller : (Fields.optional "controller" Decode.flag).Yields (outlined owner.table)
      owner.controller := .optional rfl (fun _ _ => rfl) nofun
  have hkind : (lenientText "kind").Yields (outlined owner.table) owner.kind :=
    yields_lenientText rfl
  have hname : (lenientText "name").Yields (outlined owner.table) owner.name :=
    yields_lenientText rfl
  have huid : (lenientText "uid").Yields (outlined owner.table) owner.uid :=
    yields_lenientText rfl
  have hkeys : (owner.table.map Prod.fst).Nodup := by simp [table]
  have hfields := hversion.map (fun apiVersion block controller kind name uid =>
      OwnerReference.mk apiVersion kind name uid controller block)
    |>.seq hblock |>.seq hcontroller |>.seq hkind |>.seq hname |>.seq huid
  rw [toJson_eq]
  exact Decode.openRecord_obj hfields hkeys _

end OwnerReference

namespace Metadata

/-- What stands under each key of the metadata. -/
def table (m : Metadata) : List (String × Option Json) :=
  [("annotations", m.annotations.map pairsJson),
    ("creationTimestamp", m.creationTimestamp.map Timestamp.toJson),
    ("deletionGracePeriodSeconds", m.deletionGracePeriodSeconds.map fun n => .int n.toInt),
    ("deletionTimestamp", m.deletionTimestamp.map Timestamp.toJson),
    ("finalizers", m.finalizers.map strs), ("generateName", m.generateName.map .str),
    ("generation", m.generation.map fun n => .int n.toInt), ("labels", m.labels.map pairsJson),
    ("managedFields", m.managedFields.map fun entries => .arr (entries.map ManagedFields.toJson)),
    ("name", m.name.map .str), ("namespace", m.space.map .str),
    ("ownerReferences", m.ownerReferences.map fun owners => .arr (owners.map OwnerReference.toJson)),
    ("resourceVersion", m.resourceVersion.map .str), ("selfLink", m.selfLink.map .str),
    ("uid", m.uid.map .str)]

theorem toJson_eq (m : Metadata) : m.toJson = .obj (present m.table) := by
  simp only [toJson, member?_eq, present_append]
  rfl

theorem word_int (n : Int64) : word (outline (.int n.toInt)) = .ok n := by
  have hlow := n.le_toInt
  have hhigh := n.toInt_lt
  have hrange : -(2 ^ 63) ≤ n.toInt ∧ n.toInt ≤ 2 ^ 63 - 1 := ⟨hlow, by omega⟩
  have hpow : (Nat.pow 2 63 : Int) = 2 ^ 63 := rfl
  rw [word, outline, Decode.int64, Decode.integer, hpow, if_pos hrange]
  exact congrArg _ (Int64.ofInt_toInt n)

theorem decode_toJson {m : Metadata} {around : Nat}
    (htimes : ∀ t, m.creationTimestamp = some t ∨ m.deletionTimestamp = some t →
      Timestamp.decode (outline t.toJson) = .ok t)
    (hpairs : ∀ pairs, m.annotations = some pairs ∨ m.labels = some pairs →
      Decode.dictionary Decode.text (outline (pairsJson pairs)) = .ok pairs)
    (hmanaged : ∀ entries, m.managedFields = some entries → ∀ entry ∈ entries,
      ManagedFields.decode (around + 2) (outline entry.toJson) = .ok entry) :
    decode around (outline m.toJson) = .ok m := by
  have hannotations : (Fields.optional "annotations" (Decode.dictionary Decode.text)).Yields
      (outlined m.table) m.annotations := .optional rfl (fun _ h => hpairs _ (.inl h)) nofun
  have hcreation : (Fields.optional "creationTimestamp" Timestamp.decode).Yields
      (outlined m.table) m.creationTimestamp := .optional rfl (fun _ h => htimes _ (.inl h)) nofun
  have hgrace : (Fields.optional "deletionGracePeriodSeconds" word).Yields
      (outlined m.table) m.deletionGracePeriodSeconds :=
    .optional rfl (fun _ _ => word_int _) nofun
  have hdeletion : (Fields.optional "deletionTimestamp" Timestamp.decode).Yields
      (outlined m.table) m.deletionTimestamp := .optional rfl (fun _ h => htimes _ (.inr h)) nofun
  have hfinalizers : (Fields.optional "finalizers" (Decode.list Decode.text)).Yields
      (outlined m.table) m.finalizers := .optional rfl (fun _ _ => Decode.list_strs _) nofun
  have hgeneration : (Fields.optional "generation" word).Yields (outlined m.table) m.generation :=
    .optional rfl (fun _ _ => word_int _) nofun
  have hlabels : (Fields.optional "labels" (Decode.dictionary Decode.text)).Yields
      (outlined m.table) m.labels := .optional rfl (fun _ h => hpairs _ (.inr h)) nofun
  have hwriters : (Fields.optional "managedFields"
      (Decode.list (ManagedFields.decode (around + 2)))).Yields (outlined m.table)
      m.managedFields := .optional rfl (fun _ h => Decode.list_arr (hmanaged _ h)) nofun
  have howners : (Fields.optional "ownerReferences" (Decode.list OwnerReference.decode)).Yields
      (outlined m.table) m.ownerReferences :=
    .optional rfl (fun _ _ => Decode.list_arr fun owner _ => owner.decode_toJson) nofun
  have htext {key : String} {value : Option String}
      (hfound : (outlined m.table).lookup key = some ((value.map Json.str).map outline)) :
      (Fields.optional key Decode.text).Yields (outlined m.table) value :=
    .optional hfound (fun _ _ => rfl) nofun
  have hprefix : (Fields.optional "generateName" Decode.text).Yields (outlined m.table)
      m.generateName := htext rfl
  have hname : (Fields.optional "name" Decode.text).Yields (outlined m.table) m.name := htext rfl
  have hspace : (Fields.optional "namespace" Decode.text).Yields (outlined m.table) m.space :=
    htext rfl
  have hversion : (Fields.optional "resourceVersion" Decode.text).Yields (outlined m.table)
      m.resourceVersion := htext rfl
  have hlink : (Fields.optional "selfLink" Decode.text).Yields (outlined m.table) m.selfLink :=
    htext rfl
  have huid : (Fields.optional "uid" Decode.text).Yields (outlined m.table) m.uid := htext rfl
  have hkeys : (m.table.map Prod.fst).Nodup := by simp [table]
  have hfields := hannotations.map Metadata.mk |>.seq hcreation |>.seq hgrace |>.seq hdeletion
    |>.seq hfinalizers |>.seq hprefix |>.seq hgeneration |>.seq hlabels |>.seq hwriters
    |>.seq hname |>.seq hspace |>.seq howners |>.seq hversion |>.seq hlink |>.seq huid
  rw [toJson_eq]
  exact Decode.openRecord_obj hfields hkeys _

/-- Whether the metadata are read back from their text as an object holds it. -/
def Survives (m : Metadata) : Prop :=
  ∃ value, Spells (symbols m.toJson.chars) value ∧ decode 1 value = .ok m

theorem isPlain_pairsJson (pairs : List (String × String)) : (pairsJson pairs).IsPlain := by
  refine .obj fun m hm => ?_
  obtain ⟨p, -, rfl⟩ := List.mem_map.mp hm
  exact .str p.2

theorem isPlain_int64 (n : Int64) : (Json.int n.toInt).IsPlain := by
  have hlow := n.le_toInt
  have hhigh := n.toInt_lt
  have hmax : (wordMax : Int) = 2 ^ 64 - 1 := rfl
  exact .int ⟨by omega, by omega⟩

theorem isPlain_toJson {m : Metadata} (h : m.managedFields = none) : m.toJson.IsPlain := by
  have howners (owners : List OwnerReference) :
      (Json.arr (owners.map OwnerReference.toJson)).IsPlain := by
    refine .arr fun item hitem => ?_
    obtain ⟨owner, -, rfl⟩ := List.mem_map.mp hitem
    exact owner.isPlain_toJson
  have hmanaged : ∀ value, (m.managedFields.map fun entries =>
      Json.arr (entries.map ManagedFields.toJson)) = some value → value.IsPlain := by
    rw [h]
    nofun
  rw [toJson_eq]
  exact (plainTable_nil.optional .str _ |>.optional .str _ |>.optional .str _
    |>.optional howners _ |>.optional .str _ |>.optional .str _ |>.cons hmanaged
    |>.optional isPlain_pairsJson _ |>.optional isPlain_int64 _ |>.optional .str _
    |>.optional isPlain_strs _ |>.optional (fun _ => .str _) _ |>.optional isPlain_int64 _
    |>.optional (fun _ => .str _) _ |>.optional isPlain_pairsJson _).isPlain

theorem survives {m : Metadata} (hmanaged : m.managedFields = none)
    (htimes : ∀ t, m.creationTimestamp = some t ∨ m.deletionTimestamp = some t →
      Timestamp.decode (outline t.toJson) = .ok t)
    (hpairs : ∀ pairs, m.annotations = some pairs ∨ m.labels = some pairs →
      (pairs.map Prod.fst).Pairwise (· < ·)) : m.Survives := by
  refine ⟨_, (isPlain_toJson hmanaged).spells, decode_toJson htimes ?_ ?_⟩
  · intro pairs h
    exact Decode.dictionary_obj (fun _ _ => rfl) (hpairs pairs h)
  · rw [hmanaged]
    nofun

end Metadata

end ClusterOperator

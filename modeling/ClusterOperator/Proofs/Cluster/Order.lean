import ClusterOperator.Disk.Volume
import ClusterOperator.Entry.Configuration
import ClusterOperator.Proofs.Json.Order

namespace ClusterOperator

open Json

theorem steady_names (key : String) : (nameList key).Steady :=
  .optional (.list .text)

theorem steady_flag (key : String) : (optionalFlag key).Steady :=
  .optional .flag

theorem steady_required (key : String) : (Fields.required key Decode.text).Steady :=
  .required .text

theorem steady_text (key : String) : (Fields.optional key Decode.text).Steady :=
  .optional .text

theorem Storage.steady_decode : Storage.decode.Steady := by
  have hname := steady_required "storageName"
  have hport : (Fields.optional "port" portNumber).Steady := .optional (.of_scalars nofun nofun)
  have hdefault := steady_flag "isDefault"
  apply Decoder.Steady.record
  exact hname.map Storage.mk |>.seq (.text "provider") |>.seq (.text "bucket")
    |>.seq (.text "prefix") |>.seq (.text "region") |>.seq (.text "ip") |>.seq hport
    |>.seq (.text "accessKey") |>.seq (.text "secretKey") |>.seq hdefault

theorem BackupTerms.steady_decode : BackupTerms.decode.Steady := by
  have hincluded := steady_names "includedNamespaces"
  have hexcluded := steady_names "excludedNamespaces"
  have httl : (Fields.defaulted "ttl" Duration.decode ⟨0⟩).Steady :=
    .defaulted (.of_scalars nofun nofun) _
  have hvolumes := steady_flag "defaultVolumesToFsBackup"
  have hsnapshots := steady_names "volumeSnapshotLocations"
  have hmoves := steady_flag "snapshotMoveData"
  apply Decoder.Steady.record
  exact hincluded.map BackupTerms.mk |>.seq hexcluded |>.seq httl |>.seq (.text "storageLocation")
    |>.seq hvolumes |>.seq hsnapshots |>.seq hmoves

theorem Backup.steady_decode : Backup.decode.Steady := by
  have hname := steady_required "backupName"
  have honce := steady_flag "isOneTime"
  apply Decoder.Steady.record
  exact hname.map Backup.mk |>.seq honce |>.seq (.defaulted BackupTerms.steady_decode _)

theorem Restore.steady_decode : Restore.decode.Steady := by
  have hname := steady_required "restoreName"
  have hbackup := steady_required "backupName"
  have hincluded := steady_names "includedNamespaces"
  have hexcluded := steady_names "excludedNamespaces"
  apply Decoder.Steady.record
  exact hname.map Restore.mk |>.seq hbackup |>.seq hincluded |>.seq hexcluded

theorem Schedule.steady_decode : Schedule.decode.Steady := by
  have hname := steady_required "scheduleName"
  have hschedule := steady_required "schedule"
  have hpaused := steady_flag "paused"
  apply Decoder.Steady.record
  exact hname.map Schedule.mk |>.seq hschedule |>.seq hpaused
    |>.seq (.defaulted BackupTerms.steady_decode _)

theorem Collections.steady_decode : Collections.decode.Steady := by
  have hlist {α : Type} {decode : Decoder α} (h : decode.Steady) (key : String) :
      (Fields.defaulted key (Decode.list decode) []).Steady := .defaulted (.list h) _
  have hstorages := hlist Storage.steady_decode "storageConfigs"
  have hbackups := hlist Backup.steady_decode "backupConfigs"
  have hrestores := hlist Restore.steady_decode "restoreConfigs"
  have hschedules := hlist Schedule.steady_decode "scheduleConfigs"
  apply Decoder.Steady.record
  exact hstorages.map Collections.mk |>.seq hbackups |>.seq hrestores |>.seq hschedules

theorem OwnerReference.steady_decode : OwnerReference.decode.Steady := by
  have htext (key : String) : (lenientText key).Steady := (steady_text key).map _
  have hflag (key : String) : (Fields.optional key Decode.flag).Steady := .optional .flag
  apply Decoder.Steady.openRecord
  exact (htext "apiVersion").map _ |>.seq (hflag "blockOwnerDeletion") |>.seq (hflag "controller")
    |>.seq (htext "kind") |>.seq (htext "name") |>.seq (htext "uid")

theorem ManagedFields.steady_decode (around : Nat) : (ManagedFields.decode around).Steady := by
  have hfields : (Fields.optional "fieldsV1" (Decode.anything (around + 1))).Steady :=
    .optional (.anything _)
  have htime : (Fields.optional "time" Timestamp.decode).Steady :=
    .optional (.of_scalars nofun nofun)
  apply Decoder.Steady.openRecord
  exact (steady_text "apiVersion").map ManagedFields.mk |>.seq (steady_text "fieldsType")
    |>.seq hfields |>.seq (steady_text "manager") |>.seq (steady_text "operation")
    |>.seq (steady_text "subresource") |>.seq htime

theorem Metadata.steady_decode (around : Nat) : (Metadata.decode around).Steady := by
  have hpairs (key : String) : (Fields.optional key (Decode.dictionary Decode.text)).Steady :=
    .optional (.dictionary .text)
  have htime (key : String) : (Fields.optional key Timestamp.decode).Steady :=
    .optional (.of_scalars nofun nofun)
  have hword (key : String) : (Fields.optional key word).Steady :=
    .optional (.of_scalars nofun nofun)
  have hfinalizers : (Fields.optional "finalizers" (Decode.list Decode.text)).Steady :=
    .optional (.list .text)
  have hwriters : (Fields.optional "managedFields"
      (Decode.list (ManagedFields.decode (around + 2)))).Steady :=
    .optional (.list (ManagedFields.steady_decode _))
  have howners : (Fields.optional "ownerReferences" (Decode.list OwnerReference.decode)).Steady :=
    .optional (.list OwnerReference.steady_decode)
  apply Decoder.Steady.openRecord
  exact (hpairs "annotations").map Metadata.mk |>.seq (htime "creationTimestamp")
    |>.seq (hword "deletionGracePeriodSeconds") |>.seq (htime "deletionTimestamp")
    |>.seq hfinalizers |>.seq (steady_text "generateName") |>.seq (hword "generation")
    |>.seq (hpairs "labels") |>.seq hwriters |>.seq (steady_text "name")
    |>.seq (steady_text "namespace") |>.seq howners |>.seq (steady_text "resourceVersion")
    |>.seq (steady_text "selfLink") |>.seq (steady_text "uid")

theorem Configuration.steady_decode : Configuration.decode.Steady := by
  have hmetadata : (Fields.required "metadata" (Metadata.decode 1)).Steady :=
    .required (Metadata.steady_decode 1)
  apply Decoder.Steady.record
  exact hmetadata.map Configuration.mk |>.seq (.required Collections.steady_decode)

theorem DiskStatus.steady_decode : DiskStatus.decode.Steady := by
  have hflag (key : String) : (Fields.defaulted key Decode.flag false).Steady := .defaulted .flag _
  apply Decoder.Steady.record
  exact (hflag "created").map DiskStatus.mk |>.seq (hflag "ready") |>.seq (.text "owner")

end ClusterOperator

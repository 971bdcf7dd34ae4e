/-
# `KahunaOperator.Volumes` — the files a pod finds

The pod template names volumes and mounts, the arguments and the script name paths,
the ConfigMap and the Secrets hold the contents; `internal/controller/resources.go`
and `entrypoint.go` write each of them on its own.  This module puts them together:
a path is on the deepest mount above it, the mount is backed by a claim template or a
volume, and the rest of the path is a key of the ConfigMap or Secret behind it.

    every path the server and the script are given is on the volume meant for it
                                                                    (`MadeFrom.wired`)
    the container runs the mounted script, and the script reads the mounted topology
    and password                                              (`mounted_script_boots`)

Claims are not looked into: what is below `/storage` and `/backup` is the server's.
-/
import KahunaOperator.Keystore
import KahunaOperator.Lib.Mount
import KahunaOperator.ScriptRun
import KahunaOperator.Template

namespace KahunaOperator

open Lib (components components_append components_name deepest deepest_eq find_key)
open Lib.Bash (Host State)

/-! ## From a path to its content -/

/-- What is behind a mount. -/
inductive Backing where
  | claim (name : String) (claim : Claim)
  | volume (source : VolumeSource)

/-- A claim template comes before a volume of the same name. -/
def StatefulSetObject.backing (obj : StatefulSetObject) (name : String) : Option Backing :=
  match obj.volumeClaimTemplates.lookup name with
  | some c => some (.claim name c)
  | none => (obj.template.spec.volumes.find? (·.name == name)).map fun v => .volume v.source

def StatefulSetObject.mounts (obj : StatefulSetObject) : List VolumeMount :=
  obj.template.spec.containers.flatMap (·.volumeMounts)

/-- The volume a path is on, and the rest of the path. -/
def StatefulSetObject.resolve (obj : StatefulSetObject) (path : String) :
    Option (Backing × List (List Char)) :=
  (deepest (obj.mounts.map fun m => (components m.mountPath, m.name)) (components path)).bind
    fun found => (obj.backing found.2).map fun b => (b, (components path).drop found.1.length)

/-- The ConfigMaps and Secrets of the namespace. -/
structure FileStore where
  configMap : String → Option StringMap
  secret : String → Option StringMap

/-- The file at a path of the pod, when a ConfigMap or a Secret holds it.  A volume of
a Secret has a file a key, or the files its items name. -/
def StatefulSetObject.readFile (obj : StatefulSetObject) (store : FileStore) (path : String) :
    Option String :=
  match obj.resolve path with
  | some (.volume (.configMap name _), [file]) =>
      (store.configMap name).bind (· (String.ofList file))
  | some (.volume (.secret name items _), [file]) =>
      if items.isEmpty then (store.secret name).bind (· (String.ofList file))
      else
        (items.find? (·.path == String.ofList file)).bind fun item =>
          (store.secret name).bind (· item.key)
  | _ => none

/-- The data of the generated ConfigMap. -/
def ConfigMap.data (cm : ConfigMap) : StringMap :=
  .of [("entrypoint.sh", cm.script.text), ("topology.env", cm.topology.text)]

/-! ## The mounts of the template -/

def dataMount : VolumeMount := { name := "data", mountPath := storageMountPath }

def configMount : VolumeMount := { name := "config", mountPath := configMountPath }

def tlsMount : VolumeMount := { name := "tls", mountPath := tlsMountPath, readOnly := true }

def walMount : VolumeMount := { name := "wal", mountPath := walPath }

def passwordMount : VolumeMount :=
  { name := "tls-password", mountPath := tlsPasswordMountPath, readOnly := true }

def backupMount : VolumeMount := { name := "backup", mountPath := backupMountPath }

def macMount : VolumeMount :=
  { name := "backup-mac", mountPath := backupMACMountPath, readOnly := true }

def everyMount : List VolumeMount :=
  [dataMount, configMount, tlsMount, walMount, passwordMount, backupMount, macMount]

/-- No other mount is below this one. -/
def Leaf (m : VolumeMount) : Prop :=
  ∀ q ∈ everyMount, components m.mountPath <+: components q.mountPath → q = m

instance (m : VolumeMount) : Decidable (Leaf m) :=
  inferInstanceAs (Decidable (∀ q ∈ everyMount, _))

/-- The other mount is not above the path, or less deep. -/
def NotDeeper (m : VolumeMount) (path : String) (q : VolumeMount) : Prop :=
  components q.mountPath <+: components path →
    (components q.mountPath).length < (components m.mountPath).length ∨ q = m

instance (m : VolumeMount) (path : String) (q : VolumeMount) : Decidable (NotDeeper m path q) :=
  inferInstanceAs (Decidable (_ → _ ∨ _))

/-- Below a leaf no other mount is deeper. -/
theorem Leaf.notDeeper {m q : VolumeMount} (h : Leaf m) (hq : q ∈ everyMount) (rest : String) :
    NotDeeper m (m.mountPath ++ "/" ++ rest) q := by
  intro hover
  rw [components_append] at hover
  rcases List.prefix_or_prefix_of_prefix hover (List.prefix_append _ _) with hle | hge
  · rcases Nat.lt_or_eq_of_le hle.length_le with hlt | heq
    · exact Or.inl hlt
    · refine Or.inr (h q hq ?_)
      simp only [hle.eq_of_length heq, List.prefix_rfl]
  · exact Or.inr (h q hq hge)

section Mounts
variable {cluster : KahunaCluster}

theorem mem_podVolumeMounts {m : VolumeMount} (h : m ∈ podVolumeMounts cluster) :
    m ∈ everyMount ∧ (m.name = "wal" → cluster.spec.storage.wal.isSome = true) ∧
      (m.name = "tls-password" → (tlsPasswordRef cluster).isSome = true) := by
  simp only [podVolumeMounts, List.mem_append, List.mem_cons, List.not_mem_nil, or_false] at h
  rcases h with (((rfl | rfl | rfl) | h) | h) | h
  · exact ⟨by decide, by simp, by simp⟩
  · exact ⟨by decide, by simp, by simp⟩
  · exact ⟨by decide, by simp, by simp⟩
  · split at h
    · next hwal =>
        cases List.mem_singleton.mp h
        exact ⟨by decide, fun _ => hwal, by simp⟩
    · cases h
  · split at h
    · next hpw =>
        cases List.mem_singleton.mp h
        exact ⟨by decide, by simp, fun _ => hpw⟩
    · cases h
  · split at h
    · rcases List.mem_cons.mp h with rfl | h
      · exact ⟨by decide, by simp, by simp⟩
      · cases List.mem_singleton.mp h
        exact ⟨by decide, by simp, by simp⟩
    · cases h

/-- A mount that is not of a claim names a volume of the template. -/
theorem mounted_volume {m : VolumeMount} (h : m ∈ podVolumeMounts cluster)
    (hdata : m.name ≠ "data") (hwal : m.name ≠ "wal") :
    ∃ v ∈ podVolumes cluster, v.name = m.name := by
  simp only [podVolumeMounts, List.mem_append, List.mem_cons, List.not_mem_nil, or_false] at h
  rcases h with (((rfl | rfl | rfl) | h) | h) | h
  · exact absurd rfl hdata
  · simp [podVolumes]
  · simp [podVolumes]
  · split at h
    · cases List.mem_singleton.mp h
      exact absurd rfl hwal
    · cases h
  · split at h
    · next hpw =>
        obtain ⟨ref, href⟩ := Option.isSome_iff_exists.mp hpw
        cases List.mem_singleton.mp h
        exact ⟨tlsPasswordVolume ref, by simp [podVolumes, href], rfl⟩
    · cases h
  · split at h
    · next hbackup =>
        obtain ⟨b, hb⟩ := Option.isSome_iff_exists.mp hbackup
        have hvolumes : ∀ v ∈ backupVolumes cluster b, v ∈ podVolumes cluster := by
          intro v hv
          simp [podVolumes, hb, hv]
        rcases List.mem_cons.mp h with rfl | h
        · exact ⟨_, hvolumes _ List.mem_cons_self, rfl⟩
        · cases List.mem_singleton.mp h
          exact ⟨_, hvolumes _ (List.mem_cons_of_mem _ List.mem_cons_self), rfl⟩
    · cases h

theorem podVolumes_names (cluster : KahunaCluster) :
    ((podVolumes cluster).map Volume.name).Sublist
      ["config", "tls", "tls-password", "backup", "backup-mac"] := by
  unfold podVolumes
  cases tlsPasswordRef cluster <;> cases cluster.spec.backup <;>
  simp [tlsPasswordVolume, backupVolumes]

theorem claimTemplates_other {s : StorageSpec} {name : String} (hdata : name ≠ "data")
    (hwal : name ≠ "wal") : (claimTemplates s).lookup name = none := by
  rw [List.lookup_eq_none_iff]
  unfold claimTemplates
  cases s.wal <;> simp [hdata, hwal]

theorem claimTemplates_data (s : StorageSpec) :
    (claimTemplates s).lookup "data" = some (volumeClaim s.data) := rfl

theorem claimTemplates_wal (s : StorageSpec) :
    (claimTemplates s).lookup "wal" = s.wal.map volumeClaim := by
  unfold claimTemplates
  cases s.wal <;> rfl

end Mounts

/-! ## A StatefulSet and the two clusters it is made from -/

/-- The claim templates are those of the spec the StatefulSet was created with; the
template is that of the last write. -/
structure MadeFrom (digest : String → String) (born last : KahunaCluster)
    (obj : StatefulSetObject) : Prop where
  claims : obj.volumeClaimTemplates = claimTemplates born.spec.storage
  template : obj.template = podTemplate digest last

section Made
variable {digest : String → String} {born last : KahunaCluster} {obj : StatefulSetObject}

theorem MadeFrom.mounts (h : MadeFrom digest born last obj) :
    obj.mounts = podVolumeMounts last := by
  unfold StatefulSetObject.mounts
  rw [h.template]
  exact List.flatMap_singleton _ _

theorem MadeFrom.backing_volume (h : MadeFrom digest born last obj) {v : Volume}
    (hv : v ∈ podVolumes last) : obj.backing v.name = some (.volume v.source) := by
  have hnames := podVolumes_names last
  have hnodup : ((podVolumes last).map Volume.name).Nodup := hnames.nodup (by decide)
  have hname := hnames.subset (List.mem_map_of_mem hv)
  have hvolumes : obj.template.spec.volumes = podVolumes last := by rw [h.template]; rfl
  have hclaims : obj.volumeClaimTemplates.lookup v.name = none := by
    rw [h.claims]
    refine claimTemplates_other ?_ ?_
    · intro heq
      rw [heq] at hname
      exact absurd hname (by decide)
    · intro heq
      rw [heq] at hname
      exact absurd hname (by decide)
  simp only [StatefulSetObject.backing, hclaims, hvolumes, find_key hnodup hv, Option.map_some]

theorem MadeFrom.backing_data (h : MadeFrom digest born last obj) :
    obj.backing "data" = some (.claim "data" (volumeClaim born.spec.storage.data)) := by
  simp only [StatefulSetObject.backing, h.claims, claimTemplates_data]

theorem MadeFrom.backing_wal (h : MadeFrom digest born last obj) :
    obj.backing "wal" =
      born.spec.storage.wal.map fun wal => .claim "wal" (volumeClaim wal) := by
  have hvolumes : obj.template.spec.volumes = podVolumes last := by rw [h.template]; rfl
  simp only [StatefulSetObject.backing, h.claims, claimTemplates_wal]
  cases hwal : born.spec.storage.wal with
  | some wal => rfl
  | none =>
      have hnone : (podVolumes last).find? (·.name == "wal") = none := by
        rw [List.find?_eq_none]
        intro v hv heq
        have hname := (podVolumes_names last).subset (List.mem_map_of_mem hv)
        rw [beq_iff_eq.mp heq] at hname
        exact absurd hname (by decide)
      simp only [Option.map_none, hvolumes, hnone]

/-- A path below a mount, with no deeper mount above it. -/
theorem MadeFrom.resolve (h : MadeFrom digest born last obj) {m : VolumeMount} {path : String}
    (hm : m ∈ podVolumeMounts last) (habove : components m.mountPath <+: components path)
    (honly : ∀ q ∈ podVolumeMounts last, NotDeeper m path q) :
    obj.resolve path = (obj.backing m.name).map fun b =>
      (b, (components path).drop (components m.mountPath).length) := by
  have hdeepest : deepest (obj.mounts.map fun m => (components m.mountPath, m.name))
      (components path) = some (components m.mountPath, m.name) := by
    rw [h.mounts]
    refine deepest_eq (List.mem_map.mpr ⟨m, hm, rfl⟩) habove ?_
    intro x hx hover
    obtain ⟨q, hq, rfl⟩ := List.mem_map.mp hx
    refine (honly q hq hover).imp_right ?_
    rintro rfl
    rfl
  rw [StatefulSetObject.resolve, hdeepest]
  rfl

theorem MadeFrom.resolve_leaf (h : MadeFrom digest born last obj) {m : VolumeMount} {v : Volume}
    (hm : m ∈ podVolumeMounts last) (hleaf : Leaf m) (hv : v ∈ podVolumes last)
    (hname : v.name = m.name) (rest : String) :
    obj.resolve (m.mountPath ++ "/" ++ rest) = some (.volume v.source, components rest) := by
  have hpath := components_append m.mountPath rest
  have honly : ∀ q ∈ podVolumeMounts last, NotDeeper m (m.mountPath ++ "/" ++ rest) q :=
    fun q hq => hleaf.notDeeper (mem_podVolumeMounts hq).1 rest
  rw [h.resolve hm (by rw [hpath]; exact List.prefix_append _ _) honly, ← hname,
    h.backing_volume hv, hpath, List.drop_left]
  rfl

/-- A file of the ConfigMap: `/etc/kahuna` has other mounts below it. -/
theorem MadeFrom.resolve_config (h : MadeFrom digest born last obj) {path : String}
    (habove : components configMountPath <+: components path)
    (honly : ∀ q ∈ podVolumeMounts last, NotDeeper configMount path q) :
    obj.resolve path = some (.volume (.configMap (configMapName last) 0o555),
      (components path).drop (components configMountPath).length) := by
  have hm : configMount ∈ podVolumeMounts last := by simp [podVolumeMounts, configMount]
  have hv : ({ name := "config", source := .configMap (configMapName last) 0o555 } : Volume) ∈
      podVolumes last := by simp [podVolumes]
  rw [h.resolve hm habove honly, show configMount.name = "config" from rfl, h.backing_volume hv]
  rfl

end Made

/-! ## Every path -/

/-- The paths the server and the script are given, and the volumes they are on. -/
structure Wired (born last : KahunaCluster) (obj : StatefulSetObject) : Prop where
  script : obj.resolve entrypointPath =
    some (.volume (.configMap (configMapName last) 0o555), ["entrypoint.sh".toList])
  topology : obj.resolve topologyPath =
    some (.volume (.configMap (configMapName last) 0o555), ["topology.env".toList])
  keystore : '/' ∉ (keystoreKey last).toList →
    obj.resolve (tlsMountPath ++ "/" ++ keystoreKey last) =
      some (.volume (.secret (tlsSecretName last) [] 0o400), [(keystoreKey last).toList])
  password : ∀ ref, tlsPasswordRef last = some ref →
    obj.resolve passwordPath =
      some (.volume (.secret ref.name [{ key := ref.key, path := "password" }] 0o400),
        ["password".toList])
  noPassword : tlsPasswordRef last = none →
    obj.resolve passwordPath =
      some (.volume (.configMap (configMapName last) 0o555),
        ["tls-password".toList, "password".toList])
  backups : ∀ b, last.spec.backup = some b →
    obj.resolve (backupPath last) =
      some (.volume (.persistentVolumeClaim (backupClaimName last b)), components last.name)
  mac : ∀ b, last.spec.backup = some b →
    obj.resolve backupMACKeyPath =
      some (.volume (.secret (backupMACKeyRef last b).name
        [{ key := (backupMACKeyRef last b).key, path := "key" }] 0o400), ["key".toList])
  data : obj.resolve dataPath =
    some (.claim "data" (volumeClaim born.spec.storage.data), ["data".toList])
  /-- The log is on the data claim, unless the spec of the last write has a volume for
  it; then it is on the claim the StatefulSet was created with, or on nothing. -/
  wal : obj.resolve walPath =
    if last.spec.storage.wal.isSome then
      born.spec.storage.wal.map fun wal => (.claim "wal" (volumeClaim wal), [])
    else some (.claim "data" (volumeClaim born.spec.storage.data), ["wal".toList])

section Paths
variable {digest : String → String} {born last : KahunaCluster} {obj : StatefulSetObject}

theorem MadeFrom.resolve_keystore (h : MadeFrom digest born last obj)
    (hkey : '/' ∉ (keystoreKey last).toList) :
    obj.resolve (tlsMountPath ++ "/" ++ keystoreKey last) =
      some (.volume (.secret (tlsSecretName last) [] 0o400), [(keystoreKey last).toList]) := by
  have hm : tlsMount ∈ podVolumeMounts last := by simp [podVolumeMounts, tlsMount]
  have hv : ({ name := "tls", source := .secret (tlsSecretName last) [] 0o400 } : Volume) ∈
      podVolumes last := by simp [podVolumes]
  rw [← components_name hkey]
  exact h.resolve_leaf hm (by decide) hv rfl (keystoreKey last)

theorem MadeFrom.resolve_password (h : MadeFrom digest born last obj) {ref : SecretKeySelector}
    (href : tlsPasswordRef last = some ref) :
    obj.resolve passwordPath =
      some (.volume (.secret ref.name [{ key := ref.key, path := "password" }] 0o400),
        ["password".toList]) := by
  have hm : passwordMount ∈ podVolumeMounts last := by
    simp [podVolumeMounts, passwordMount, href]
  have hv : tlsPasswordVolume ref ∈ podVolumes last := by simp [podVolumes, href]
  exact h.resolve_leaf hm (by decide) hv rfl "password"

/-- Without a password the path is one of the ConfigMap, which has no such file. -/
theorem MadeFrom.resolve_noPassword (h : MadeFrom digest born last obj)
    (hnone : tlsPasswordRef last = none) :
    obj.resolve passwordPath =
      some (.volume (.configMap (configMapName last) 0o555),
        ["tls-password".toList, "password".toList]) := by
  refine h.resolve_config (by decide) ?_
  intro q hq
  obtain ⟨hevery, _, hpw⟩ := mem_podVolumeMounts hq
  have hno : q.name ≠ "tls-password" := by
    intro hname
    have hsome := hpw hname
    rw [hnone] at hsome
    cases hsome
  exact (by decide : ∀ q ∈ everyMount, q.name ≠ "tls-password" →
    NotDeeper configMount passwordPath q) q hevery hno

theorem MadeFrom.resolve_backup (h : MadeFrom digest born last obj) {b : BackupSpec}
    (hb : last.spec.backup = some b) :
    obj.resolve (backupPath last) =
        some (.volume (.persistentVolumeClaim (backupClaimName last b)), components last.name) ∧
      obj.resolve backupMACKeyPath =
        some (.volume (.secret (backupMACKeyRef last b).name
          [{ key := (backupMACKeyRef last b).key, path := "key" }] 0o400), ["key".toList]) := by
  have hvolumes : ∀ v ∈ backupVolumes last b, v ∈ podVolumes last := by
    intro v hv
    simp [podVolumes, hb, hv]
  have hbackup : backupMount ∈ podVolumeMounts last := by
    simp [podVolumeMounts, backupMount, hb]
  have hmac : macMount ∈ podVolumeMounts last := by simp [podVolumeMounts, macMount, hb]
  exact ⟨h.resolve_leaf hbackup (by decide) (hvolumes _ List.mem_cons_self) rfl last.name,
    h.resolve_leaf hmac (by decide) (hvolumes _ (List.mem_cons_of_mem _ List.mem_cons_self)) rfl
      "key"⟩

theorem MadeFrom.resolve_storage (h : MadeFrom digest born last obj) :
    obj.resolve dataPath =
        some (.claim "data" (volumeClaim born.spec.storage.data), ["data".toList]) ∧
      obj.resolve walPath =
        if last.spec.storage.wal.isSome then
          born.spec.storage.wal.map fun wal => (.claim "wal" (volumeClaim wal), [])
        else some (.claim "data" (volumeClaim born.spec.storage.data), ["wal".toList]) := by
  have hm : dataMount ∈ podVolumeMounts last := by simp [podVolumeMounts, dataMount]
  constructor
  · rw [h.resolve hm (by decide) fun q hq => (by decide : ∀ q ∈ everyMount,
      NotDeeper dataMount dataPath q) q (mem_podVolumeMounts hq).1,
      show dataMount.name = "data" from rfl, h.backing_data]
    rfl
  · split
    · next hwal =>
        have hm : walMount ∈ podVolumeMounts last := by simp [podVolumeMounts, walMount, hwal]
        rw [h.resolve hm (by decide) fun q hq => (by decide : ∀ q ∈ everyMount,
          NotDeeper walMount walPath q) q (mem_podVolumeMounts hq).1,
          show walMount.name = "wal" from rfl, h.backing_wal, Option.map_map]
        rfl
    · next hwal =>
        have hno : ∀ q ∈ podVolumeMounts last, NotDeeper dataMount walPath q := by
          intro q hq
          obtain ⟨hevery, hsome, _⟩ := mem_podVolumeMounts hq
          exact (by decide : ∀ q ∈ everyMount, q.name ≠ "wal" →
            NotDeeper dataMount walPath q) q hevery fun hname => hwal (hsome hname)
        rw [h.resolve hm (by decide) hno, show dataMount.name = "data" from rfl, h.backing_data]
        rfl

theorem MadeFrom.wired (h : MadeFrom digest born last obj) : Wired born last obj where
  script := h.resolve_config (by decide) fun q hq => (by decide : ∀ q ∈ everyMount,
    NotDeeper configMount entrypointPath q) q (mem_podVolumeMounts hq).1
  topology := h.resolve_config (by decide) fun q hq => (by decide : ∀ q ∈ everyMount,
    NotDeeper configMount topologyPath q) q (mem_podVolumeMounts hq).1
  keystore := h.resolve_keystore
  password _ := h.resolve_password
  noPassword := h.resolve_noPassword
  backups _ hb := (h.resolve_backup hb).1
  mac _ hb := (h.resolve_backup hb).2
  data := h.resolve_storage.1
  wal := h.resolve_storage.2

end Paths

/-! ## What is read there -/

section Files
variable {digest : String → String} {born last : KahunaCluster} {obj : StatefulSetObject}
  {store : FileStore}

theorem Wired.read_script (h : Wired born last obj) :
    obj.readFile store entrypointPath =
      (store.configMap (configMapName last)).bind (· "entrypoint.sh") := by
  rw [StatefulSetObject.readFile, h.script]
  rfl

theorem Wired.read_topology (h : Wired born last obj) :
    obj.readFile store topologyPath =
      (store.configMap (configMapName last)).bind (· "topology.env") := by
  rw [StatefulSetObject.readFile, h.topology]
  rfl

theorem Wired.read_password (h : Wired born last obj) :
    obj.readFile store passwordPath =
      (tlsPasswordRef last).bind fun ref => (store.secret ref.name).bind (· ref.key) := by
  cases href : tlsPasswordRef last with
  | none =>
      rw [StatefulSetObject.readFile, h.noPassword href]
      rfl
  | some ref =>
      rw [StatefulSetObject.readFile, h.password ref href]
      simp

/-- The environment of a container: plain values, and fields of the pod. -/
def ContainerSpec.vars (c : ContainerSpec) (pod ns : String) : String → Option String := fun x =>
  (c.env.find? (·.name == x)).bind fun v =>
    match v.value with
    | .value text => some text
    | .fieldRef path =>
        if path = "metadata.name" then some pod
        else if path = "metadata.namespace" then some ns
        else none

theorem pastLast_podName (cluster : KahunaCluster) (i : Nat) :
    Lib.Bash.pastLast (podName cluster i) '-' = toString i := by
  rw [Lib.Bash.pastLast, afterLastDash_podName]
  rfl

/-- A pod of the StatefulSet, with the ConfigMap of a pass and the password of the
cluster mounted: its command runs the file that is the print of `startProgram`, and
run on the mounted files this ends as `startPod` says, with the topology of that
pass. -/
theorem mounted_script_boots (hmade : MadeFrom digest born last obj) {n : Nat}
    (hconfig : store.configMap (configMapName last) = some (desiredConfigMap last n).data)
    {content : String} (hpassword : ∀ ref, tlsPasswordRef last = some ref →
      (store.secret ref.name).bind (· ref.key) = some content)
    {host : Host} (hfiles : host.file = obj.readFile store)
    (hdirs : host.makes dataPath = true ∧ host.makes walPath = true) {i fuel : Nat}
    (hi : i + 1 < 2 ^ 63) (hn : n < 2 ^ 63) (hsize : desiredReplicas last < 2 ^ 63)
    (hfuel : desiredReplicas last < fuel) :
    ∃ c path, obj.template.spec.containers = [c] ∧ c.command = ["/bin/bash", path] ∧
      obj.readFile store path =
        some (scriptLines ((startProgram (entrypointScript last)).lines shellQuote)) ∧
      EndsAs host
        ((startProgram (entrypointScript last)).run host fuel
          (shellIn (c.vars (podName last i) last.ns)))
        (startPod last (some (topologyEnv last n)) (podName last i) (dataEmpty host) content) := by
  have hwired := hmade.wired
  refine ⟨kahunaContainer last, entrypointPath, by rw [hmade.template]; rfl, rfl, ?_, ?_⟩
  · rw [hwired.read_script, hconfig, print_startProgram]
    rfl
  · have htopology : host.file topologyPath =
        (some (topologyEnv last n)).map Topology.text := by
      rw [hfiles, hwired.read_topology, hconfig]
      rfl
    have hread : (host.file passwordPath).map Lib.Bash.captured = passwordFile last content := by
      rw [hfiles, hwired.read_password]
      cases href : tlsPasswordRef last with
      | none => simp [passwordFile, href]
      | some ref =>
          simp only [Option.bind_some, hpassword ref href, passwordFile, href, Option.map_some]
    have hends := @run_startProgram host fuel (podName last i) (entrypointScript last)
      ((kahunaContainer last).vars (podName last i) last.ns) _ htopology hdirs rfl
      (by
        intro m hm
        rw [scriptOrdinal_podName] at hm
        cases hm
        exact ⟨pastLast_podName last i, hi⟩)
      (by
        rintro _ ⟨⟩
        exact ⟨hsize, hn, hfuel⟩)
    rw [hread] at hends
    exact hends

end Files

/-! ## A first pod -/

theorem desired_madeFrom (digest : String → String) (cluster : KahunaCluster) (partition : Nat) :
    MadeFrom digest cluster cluster (desiredStatefulSetObject digest cluster partition) :=
  ⟨rfl, rfl⟩

/-- The ConfigMap and the generated password of a cluster of three. -/
def certifiedStore : FileStore where
  configMap name :=
    if name = "kahuna-config" then some (desiredConfigMap certifiedCluster 3).data else none
  secret name :=
    if name = "kahuna-tls-password" then some (.of [("password", "s3cret")]) else none

def certifiedHost : Host :=
  { file := (desiredStatefulSetObject id certifiedCluster 0).readFile certifiedStore
    listing := fun _ => none
    makes := fun _ => true
    quote := traceWord }

theorem certified_pod_boots :
    ∃ c path, (desiredStatefulSetObject id certifiedCluster 0).template.spec.containers = [c] ∧
      c.command = ["/bin/bash", path] ∧
      (desiredStatefulSetObject id certifiedCluster 0).readFile certifiedStore path =
        some (scriptLines ((startProgram (entrypointScript certifiedCluster)).lines
          shellQuote)) ∧
      EndsAs certifiedHost
        ((startProgram (entrypointScript certifiedCluster)).run certifiedHost 4
          (shellIn (c.vars (podName certifiedCluster 0) certifiedCluster.ns)))
        (startPod certifiedCluster (some (topologyEnv certifiedCluster 3))
          (podName certifiedCluster 0) (dataEmpty certifiedHost) "s3cret") :=
  mounted_script_boots (desired_madeFrom id certifiedCluster 0) rfl
    (by
      rintro _ ⟨⟩
      rfl)
    rfl ⟨rfl, rfl⟩ (by decide) (by decide) (by decide) (by decide)

end KahunaOperator

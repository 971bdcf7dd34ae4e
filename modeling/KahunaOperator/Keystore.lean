/-
# `KahunaOperator.Keystore` — replacing a keystore its password does not open

`replaceStaleKeystore` and `certificateReady` of `internal/controller/certificate.go`.
cert-manager encodes a keystore with the bytes of the password Secret and does not
reissue it when they change, so a pass deletes a keystore that the password does
not open, pinned to the uid and the version it read.

Both Secrets come from one informer: its cache may lag, but it shows the writes
to them in their order, and never goes back.  So a password read after a keystore
is no older than what the keystore was encoded with.

    once the password stays, at most one keystore is deleted
    a deleted keystore carries the annotation of this cluster's Certificate
    a deleted keystore is the one read, not written since       (`stale_keystore_replaced_once`)

The test for deletion takes the password as cert-manager does, byte for byte; the
test for readiness takes it as the pods do, without the newlines at its end.
`issued_ready_iff` says what the difference comes to.
-/
import KahunaOperator.BackupGate
import KahunaOperator.Lib.Guarded
import KahunaOperator.Lib.Run
import KahunaOperator.Objects
import Mathlib.Data.List.DropRight

namespace KahunaOperator

open Lib (Run Transition)
open Lib.Guarded (Obj History Write Sound)

/-! ## The Secrets -/

/-- A PKCS#12 blob: encoded with a password, or not to be parsed. -/
inductive KeystoreBlob where
  | encoded (password : String)
  | unparsable
deriving DecidableEq, Repr

structure KeystoreSecret where
  annotations : List (String × String) := []
  data : List (String × KeystoreBlob) := []
deriving DecidableEq, Repr

structure PasswordSecret where
  data : List (String × String) := []
deriving DecidableEq, Repr

def certManagerCertificateAnnotation : String := "cert-manager.io/certificate-name"

/-- Only a wrong password counts as a failure. -/
def KeystoreBlob.opensWith (keystore : KeystoreBlob) (password : String) : Bool :=
  match keystore with
  | .encoded p => p == password
  | .unparsable => true

structure KeystoreMaterial where
  secret : Obj KeystoreSecret
  keystore : KeystoreBlob
  password : String

/-- The keystore and its password, when both Secrets have them. -/
def readKeystore (cluster : KahunaCluster) (secret : Option (Obj KeystoreSecret))
    (pw : Option PasswordSecret) : Option KeystoreMaterial :=
  match tlsPasswordRef cluster with
  | none => none
  | some ref =>
      match secret with
      | none => none
      | some secret =>
          match secret.value.data.lookup (keystoreKey cluster) with
          | none => none
          | some keystore =>
              match pw.bind (·.data.lookup ref.key) with
              | none => none
              | some password =>
                  some { secret := secret, keystore := keystore, password := password }

/-- The delete a pass asks for: the uid and the version it is pinned to. -/
def replaceStaleKeystore (cluster : KahunaCluster) (secret : Option (Obj KeystoreSecret))
    (pw : Option PasswordSecret) : Option (Nat × Nat) :=
  if cluster.spec.tls.certManager then
    match readKeystore cluster secret pw with
    | none => none
    | some k =>
        if k.secret.value.annotations.lookup certManagerCertificateAnnotation ≠
            some (certificateName cluster) ∨ k.keystore.opensWith k.password = true then none
        else some (k.secret.uid, k.secret.version)
  else none

/-- Whether the keystore the pods mount is there and opens with the password as
they read it; the Secret is read once more in between. -/
def certificateReady (cluster : KahunaCluster) (first second : Option (Obj KeystoreSecret))
    (pw : Option PasswordSecret) : Bool × String :=
  match first with
  | none => (false, "waiting for keystore Secret " ++ quote (tlsSecretName cluster))
  | some secret =>
      let key := keystoreKey cluster
      if (secret.value.data.lookup key).isNone then
        (false, "Secret " ++ quote (tlsSecretName cluster) ++ " has no " ++ quote key ++ " key")
      else
        match readKeystore cluster second pw with
        | none => (true, "")
        | some k =>
            let trimmed := String.ofList (trimRight (· == '\n') k.password.toList)
            if k.keystore.opensWith trimmed then (true, "")
            else
              (false, "keystore in Secret " ++ quote (tlsSecretName cluster) ++
                " does not open with the password in Secret " ++
                quote (((tlsPasswordRef cluster).map SecretKeySelector.name).getD ""))

/-! ## The Secrets among their writers -/

/-- Both Secrets, in one revision. -/
structure Secrets where
  password : Option PasswordSecret := none
  keystore : Option (Obj KeystoreSecret) := none

/-- A pass at its work: it has read a revision of the keystore, then also one of
the password. -/
inductive KeystorePass where
  | idle
  | found (revision : Nat)
  | tested (revision passwordRevision : Nat)

/-- Any number of passes may be under way, of one operator or of an operator and
the next leader. -/
structure KeystoreWorld where
  secrets : History Secrets
  pass : Nat → KeystorePass := fun _ => .idle

/-- The password cert-manager encodes with, byte for byte. -/
def rawPassword (cluster : KahunaCluster) (pw : Option PasswordSecret) : Option String :=
  (tlsPasswordRef cluster).bind fun ref => pw.bind (·.data.lookup ref.key)

/-- A Secret as cert-manager writes it for the cluster's Certificate. -/
structure Issued (cluster : KahunaCluster) (raw : String) (secret : KeystoreSecret) : Prop where
  annotated : secret.annotations.lookup certManagerCertificateAnnotation =
    some (certificateName cluster)
  encoded : secret.data.lookup (keystoreKey cluster) = some (.encoded raw)

inductive KeystoreEvent where
  | setPassword (pw : Option PasswordSecret)
  | issue (secret : KeystoreSecret)
  | renew (secret : KeystoreSecret)
  | readKeystore (p revision : Nat)
  | readPassword (p revision : Nat)
  | delete (p : Nat)
  | abandon (p : Nat)
  /-- Somebody else creates the keystore Secret, or writes to it. -/
  | foreign (secret : KeystoreSecret)
  | foreignRemove

def KeystoreWorld.withKeystore (w : KeystoreWorld) (keystore : Option (Obj KeystoreSecret)) :
    History Secrets :=
  w.secrets.push { w.secrets.current with keystore := keystore }

/-- The object a write of `secret` leaves: a new one when there was none. -/
def KeystoreWorld.written (w : KeystoreWorld) (secret : KeystoreSecret) : Obj KeystoreSecret :=
  match w.secrets.current.keystore with
  | none => ⟨w.secrets.top + 1, w.secrets.top + 1, secret⟩
  | some o => { o with version := w.secrets.top + 1, value := secret }

inductive KeystoreStep (cluster : KahunaCluster) :
    KeystoreWorld → KeystoreEvent → KeystoreWorld → Prop
  | setPassword {w : KeystoreWorld} (pw : Option PasswordSecret) :
      KeystoreStep cluster w (.setPassword pw)
        { w with secrets := w.secrets.push { w.secrets.current with password := pw } }
  /-- cert-manager issues a keystore where there is none. -/
  | issue {w : KeystoreWorld} {raw : String} {secret : KeystoreSecret} :
      w.secrets.current.keystore = none →
      rawPassword cluster w.secrets.current.password = some raw → Issued cluster raw secret →
      KeystoreStep cluster w (.issue secret)
        { w with secrets := w.withKeystore (some (w.written secret)) }
  /-- It rewrites one, with a new certificate or with the same. -/
  | renew {w : KeystoreWorld} {raw : String} {secret : KeystoreSecret} :
      w.secrets.current.keystore.isSome = true →
      rawPassword cluster w.secrets.current.password = some raw → Issued cluster raw secret →
      KeystoreStep cluster w (.renew secret)
        { w with secrets := w.withKeystore (some (w.written secret)) }
  | readKeystore {w : KeystoreWorld} {p revision : Nat} :
      w.pass p = .idle → revision ≤ w.secrets.top →
      KeystoreStep cluster w (.readKeystore p revision)
        { w with pass := Function.update w.pass p (.found revision) }
  /-- The cache does not go back. -/
  | readPassword {w : KeystoreWorld} {p revision passwordRevision : Nat} :
      w.pass p = .found revision → revision ≤ passwordRevision →
      passwordRevision ≤ w.secrets.top →
      KeystoreStep cluster w (.readPassword p passwordRevision)
        { w with pass := Function.update w.pass p (.tested revision passwordRevision) }
  /-- The API server deletes only the object the preconditions name. -/
  | delete {w : KeystoreWorld} {p revision passwordRevision : Nat} {o : Obj KeystoreSecret} :
      w.pass p = .tested revision passwordRevision →
      replaceStaleKeystore cluster (w.secrets.rev revision).keystore
        (w.secrets.rev passwordRevision).password = some (o.uid, o.version) →
      w.secrets.current.keystore = some o →
      KeystoreStep cluster w (.delete p)
        { secrets := w.withKeystore none, pass := Function.update w.pass p .idle }
  /-- Nothing to delete, a delete refused, or a crash. -/
  | abandon {w : KeystoreWorld} {p : Nat} :
      KeystoreStep cluster w (.abandon p) { w with pass := Function.update w.pass p .idle }
  | foreign {w : KeystoreWorld} (secret : KeystoreSecret) :
      KeystoreStep cluster w (.foreign secret)
        { w with secrets := w.withKeystore (some (w.written secret)) }
  | foreignRemove {w : KeystoreWorld} :
      KeystoreStep cluster w .foreignRemove { w with secrets := w.withKeystore none }

theorem KeystoreStep.delete_inv {cluster : KahunaCluster} {w b : KeystoreWorld} {p : Nat}
    (h : KeystoreStep cluster w (.delete p) b) :
    ∃ i j o, w.pass p = .tested i j ∧
      replaceStaleKeystore cluster (w.secrets.rev i).keystore (w.secrets.rev j).password =
        some (o.uid, o.version) ∧
      w.secrets.current.keystore = some o ∧ b.secrets = w.withKeystore none := by
  cases h with
  | delete hpass hrequest hstored => exact ⟨_, _, _, hpass, hrequest, hstored, rfl⟩

theorem KeystoreWorld.withKeystore_current (w : KeystoreWorld)
    (keystore : Option (Obj KeystoreSecret)) :
    (w.withKeystore keystore).current.keystore = keystore := by
  rw [KeystoreWorld.withKeystore, History.push_current]

/-! ## What every step keeps -/

/-- A pass has read what was there, and the password no earlier than the keystore. -/
def KeystorePass.Within (top : Nat) : KeystorePass → Prop
  | .idle => True
  | .found i => i ≤ top
  | .tested i j => i ≤ j ∧ j ≤ top

theorem KeystorePass.Within.succ {top : Nat} {pass : KeystorePass} (h : pass.Within top) :
    pass.Within (top + 1) := by
  cases pass with
  | idle => trivial
  | found i => exact Nat.le_succ_of_le h
  | tested i j => exact ⟨h.1, Nat.le_succ_of_le h.2⟩

structure SecretsSound (w : KeystoreWorld) : Prop where
  sound : Sound Secrets.keystore (fun _ _ => True) w.secrets
  within : ∀ p, (w.pass p).Within w.secrets.top

theorem SecretsSound.push {w : KeystoreWorld} (h : SecretsSound w) {b : Secrets}
    (hwrite : Write Secrets.keystore (fun _ _ => True) w.secrets b) :
    SecretsSound { w with secrets := w.secrets.push b } where
  sound := h.sound.push (fun _ => trivial) (fun _ _ => trivial) hwrite
  within p := (h.within p).succ

theorem SecretsSound.update {w : KeystoreWorld} (h : SecretsSound w) (p : Nat)
    {pass : KeystorePass} (hpass : pass.Within w.secrets.top) :
    SecretsSound { w with pass := Function.update w.pass p pass } where
  sound := h.sound
  within := (Function.forall_update_iff w.pass fun _ (x : KeystorePass) =>
    x.Within w.secrets.top).mpr ⟨hpass, fun q _ => h.within q⟩

theorem write_written (w : KeystoreWorld) (secret : KeystoreSecret) :
    Write Secrets.keystore (fun _ _ => True) w.secrets
      { w.secrets.current with keystore := some (w.written secret) } := by
  unfold KeystoreWorld.written
  cases hcurrent : w.secrets.current.keystore with
  | none => exact .create secret rfl
  | some o => exact .update secret hcurrent trivial rfl

theorem SecretsSound.step {cluster : KahunaCluster} {a b : KeystoreWorld} {e : KeystoreEvent}
    (h : SecretsSound a) (hstep : KeystoreStep cluster a e b) : SecretsSound b := by
  cases hstep with
  | setPassword pw =>
      exact h.push (b := { a.secrets.current with password := pw }) (.other rfl)
  | issue _ _ _ => exact h.push (write_written a _)
  | renew _ _ _ => exact h.push (write_written a _)
  | readKeystore _ hrevision => exact h.update _ hrevision
  | readPassword _ horder htop => exact h.update _ ⟨horder, htop⟩
  | delete _ _ _ => exact (h.push (.remove rfl)).update _ trivial
  | abandon => exact h.update _ trivial
  | foreign secret => exact h.push (write_written a _)
  | foreignRemove => exact h.push (.remove rfl)

/-! ## What the operator deletes -/

theorem Issued.readKeystore {cluster : KahunaCluster} {o : Obj KeystoreSecret}
    {pw : Option PasswordSecret} {raw : String} (h : Issued cluster raw o.value)
    (hraw : rawPassword cluster pw = some raw) :
    readKeystore cluster (some o) pw =
      some { secret := o, keystore := .encoded raw, password := raw } := by
  obtain ⟨ref, href, hpassword⟩ := Option.bind_eq_some_iff.mp hraw
  simp only [KahunaOperator.readKeystore, href, h.encoded, hpassword]

theorem encoded_opensWith_iff {raw password : String} :
    (KeystoreBlob.encoded raw).opensWith password = true ↔ raw = password :=
  beq_iff_eq

theorem trimRight_eq_self_iff {p : Char → Bool} {cs : List Char} :
    trimRight p cs = cs ↔ ∀ h : cs ≠ [], ¬ p (cs.getLast h) = true :=
  List.rdropWhile_eq_self_iff

/-- A keystore issued with the password is left alone.  It is ready unless the
password ends with a newline, which the pods do not see; then it stays unready. -/
theorem issued_ready_iff {cluster : KahunaCluster} {o : Obj KeystoreSecret}
    {pw : Option PasswordSecret} {raw : String} (h : Issued cluster raw o.value)
    (hraw : rawPassword cluster pw = some raw) :
    replaceStaleKeystore cluster (some o) pw = none ∧
      ((certificateReady cluster (some o) (some o) pw).1 = true ↔
        ∀ hne : raw.toList ≠ [], raw.toList.getLast hne ≠ '\n') := by
  have hread := h.readKeystore hraw
  constructor
  · unfold replaceStaleKeystore
    rw [hread]
    simp [encoded_opensWith_iff]
  · have htrimmed : raw = String.ofList (trimRight (· == '\n') raw.toList) ↔
        trimRight (· == '\n') raw.toList = raw.toList := by
      rw [← String.toList_inj, String.toList_ofList, eq_comm]
    have hready : (certificateReady cluster (some o) (some o) pw).1 = true ↔
        raw = String.ofList (trimRight (· == '\n') raw.toList) := by
      unfold certificateReady
      rw [hread]
      simp only [h.encoded, Option.isNone_some, Bool.false_eq_true, if_false,
        encoded_opensWith_iff]
      split
      · next heq => exact iff_of_true rfl heq
      · next hne => exact iff_of_false Bool.false_ne_true hne
    rw [hready, htrimmed, trimRight_eq_self_iff]
    simp only [beq_iff_eq, ne_eq]

theorem readKeystore_some {cluster : KahunaCluster} {secret : Option (Obj KeystoreSecret)}
    {pw : Option PasswordSecret} {k : KeystoreMaterial}
    (h : readKeystore cluster secret pw = some k) :
    secret = some k.secret ∧ k.secret.value.data.lookup (keystoreKey cluster) = some k.keystore ∧
      rawPassword cluster pw = some k.password := by
  unfold readKeystore at h
  split at h
  · cases h
  · next ref href =>
      split at h
      · cases h
      · next o =>
          split at h
          · cases h
          · next keystore hkeystore =>
              split at h
              · cases h
              · next password hpassword =>
                  cases h
                  refine ⟨rfl, hkeystore, ?_⟩
                  rw [rawPassword, href]
                  exact hpassword

theorem replaceStaleKeystore_delete {cluster : KahunaCluster}
    {secret : Option (Obj KeystoreSecret)} {pw : Option PasswordSecret} {uid version : Nat}
    (h : replaceStaleKeystore cluster secret pw = some (uid, version)) :
    ∃ k : KeystoreMaterial, readKeystore cluster secret pw = some k ∧
      k.secret.uid = uid ∧ k.secret.version = version ∧
      k.secret.value.annotations.lookup certManagerCertificateAnnotation =
        some (certificateName cluster) ∧
      k.keystore.opensWith k.password = false := by
  unfold replaceStaleKeystore at h
  split at h
  · split at h
    · cases h
    · next k hread =>
        split at h
        · cases h
        · next hstale =>
            cases h
            obtain ⟨hannotated, hclosed⟩ := not_or.mp hstale
            exact ⟨k, hread, rfl, rfl, not_not.mp hannotated, by simpa using hclosed⟩
  · cases h

/-- The delete is pinned to the Secret that was read, and cert-manager issued that one
for the cluster's Certificate. -/
theorem replaceStaleKeystore_pinned {cluster : KahunaCluster} {secret : Obj KeystoreSecret}
    {pw : Option PasswordSecret} {uid version : Nat}
    (h : replaceStaleKeystore cluster (some secret) pw = some (uid, version)) :
    secret.uid = uid ∧ secret.version = version ∧
      secret.value.annotations.lookup certManagerCertificateAnnotation =
        some (certificateName cluster) := by
  obtain ⟨k, hread, huid, hversion, hannotated, _⟩ := replaceStaleKeystore_delete h
  have hk : secret = k.secret := Option.some.inj (readKeystore_some hread).1
  rw [hk]
  exact ⟨huid, hversion, hannotated⟩

theorem SecretsSound.reads {w : KeystoreWorld} (h : SecretsSound w) {p i j : Nat}
    (hpass : w.pass p = .tested i j) : i ≤ j ∧ j ≤ w.secrets.top := by
  have hwithin := h.within p
  rw [hpass] at hwithin
  exact hwithin

/-- The keystore an accepted delete takes is the one the pass tested, and it has
been there unchanged since it was read. -/
theorem SecretsSound.tested_deleted {cluster : KahunaCluster} {w : KeystoreWorld}
    (h : SecretsSound w) {p i j : Nat} {o : Obj KeystoreSecret} (hpass : w.pass p = .tested i j)
    (hrequest : replaceStaleKeystore cluster (w.secrets.rev i).keystore
      (w.secrets.rev j).password = some (o.uid, o.version))
    (hstored : w.secrets.current.keystore = some o) :
    (∀ n, i ≤ n → n ≤ w.secrets.top → (w.secrets.rev n).keystore = some o) ∧
      o.value.annotations.lookup certManagerCertificateAnnotation =
        some (certificateName cluster) ∧
      ∃ keystore password, o.value.data.lookup (keystoreKey cluster) = some keystore ∧
        rawPassword cluster (w.secrets.rev j).password = some password ∧
        keystore.opensWith password = false := by
  obtain ⟨k, hread, _, hversion, hannotated, hclosed⟩ := replaceStaleKeystore_delete hrequest
  obtain ⟨hsecret, hkeystore, hpassword⟩ := readKeystore_some hread
  obtain ⟨hij, hj⟩ := h.reads hpass
  obtain ⟨rfl, hkept⟩ :=
    h.sound.pinned (Nat.le_trans hij hj) hsecret hstored hversion.symm
  exact ⟨hkept, hannotated, k.keystore, k.password, hkeystore, hpassword, hclosed⟩

/-! ## After the password has settled -/

def DeletesKeystore (t : Transition KeystoreWorld KeystoreEvent) : Prop :=
  ∃ p, t.event = .delete p

/-- The password stays as it is, and nobody but cert-manager writes a keystore. -/
def PasswordKept (t : Transition KeystoreWorld KeystoreEvent) : Prop :=
  (∀ pw, t.event ≠ .setPassword pw) ∧ ∀ secret, t.event ≠ .foreign secret

/-- Since revision `T` the password is `pw`, and every keystore written after it is
encoded with it. -/
structure SettledSince (cluster : KahunaCluster) (T : Nat) (pw : Option PasswordSecret)
    (w : KeystoreWorld) : Prop where
  secrets : SecretsSound w
  since : T ≤ w.secrets.top
  password : ∀ n ≤ w.secrets.top, T ≤ n → (w.secrets.rev n).password = pw
  issued : ∀ n ≤ w.secrets.top, ∀ o, (w.secrets.rev n).keystore = some o → T < o.version →
    ∃ raw, rawPassword cluster pw = some raw ∧ Issued cluster raw o.value

section settled

variable {cluster : KahunaCluster} {T : Nat} {pw : Option PasswordSecret} {w : KeystoreWorld}

theorem SettledSince.current (h : SettledSince cluster T pw w) :
    w.secrets.current.password = pw :=
  h.password w.secrets.top (Nat.le_refl _) h.since

theorem SettledSince.push (h : SettledSince cluster T pw w) {keystore : Option (Obj KeystoreSecret)}
    {pass : Nat → KeystorePass}
    (hsecrets : SecretsSound { secrets := w.withKeystore keystore, pass := pass })
    (hnew : ∀ o, keystore = some o → ∃ raw, rawPassword cluster pw = some raw ∧
      Issued cluster raw o.value) :
    SettledSince cluster T pw { secrets := w.withKeystore keystore, pass := pass } where
  secrets := hsecrets
  since := Nat.le_succ_of_le h.since
  password := History.forall_push (P := fun n (x : Secrets) => T ≤ n → x.password = pw) h.password
    fun _ => h.current
  issued := History.forall_push
    (P := fun _ (x : Secrets) => ∀ o, x.keystore = some o → T < o.version →
      ∃ raw, rawPassword cluster pw = some raw ∧ Issued cluster raw o.value) h.issued
    fun o ho _ => hnew o ho

theorem SettledSince.written (h : SettledSince cluster T pw w) {raw : String}
    {secret : KeystoreSecret} (hraw : rawPassword cluster w.secrets.current.password = some raw)
    (hissued : Issued cluster raw secret) :
    ∀ o, some (w.written secret) = some o → ∃ raw, rawPassword cluster pw = some raw ∧
      Issued cluster raw o.value := by
  rintro o ⟨⟩
  rw [h.current] at hraw
  refine ⟨raw, hraw, ?_⟩
  unfold KeystoreWorld.written
  cases w.secrets.current.keystore with
  | none => exact hissued
  | some _ => exact hissued

theorem SettledSince.step {b : KeystoreWorld} {e : KeystoreEvent}
    (h : SettledSince cluster T pw w) (hkept : PasswordKept ⟨w, e, b⟩)
    (hstep : KeystoreStep cluster w e b) : SettledSince cluster T pw b := by
  have hsecrets := h.secrets.step hstep
  cases hstep with
  | setPassword pw => exact absurd rfl (hkept.1 pw)
  | issue _ hraw hissued => exact h.push hsecrets (h.written hraw hissued)
  | renew _ hraw hissued => exact h.push hsecrets (h.written hraw hissued)
  | readKeystore _ _ => exact ⟨hsecrets, h.since, h.password, h.issued⟩
  | readPassword _ _ _ => exact ⟨hsecrets, h.since, h.password, h.issued⟩
  | delete _ _ _ =>
      refine h.push hsecrets ?_
      rintro o ⟨⟩
  | abandon => exact ⟨hsecrets, h.since, h.password, h.issued⟩
  | foreign secret => exact absurd rfl (hkept.2 secret)
  | foreignRemove =>
      refine h.push hsecrets ?_
      rintro o ⟨⟩

theorem SettledSince.deletes_old (h : SettledSince cluster T pw w) {p i j : Nat}
    {o : Obj KeystoreSecret} (hpass : w.pass p = .tested i j)
    (hrequest : replaceStaleKeystore cluster (w.secrets.rev i).keystore
      (w.secrets.rev j).password = some (o.uid, o.version))
    (hstored : w.secrets.current.keystore = some o) : o.version ≤ T := by
  by_contra hnew
  obtain ⟨hij, hj⟩ := h.secrets.reads hpass
  obtain ⟨hunchanged, _, keystore, password, hkeystore, hpassword, hclosed⟩ :=
    h.secrets.tested_deleted hpass hrequest hstored
  have hread := hunchanged i (Nat.le_refl _) (Nat.le_trans hij hj)
  have hdated := (h.secrets.sound.dated i o (Nat.le_trans hij hj) hread).2
  -- The keystore was read after `T`, so the password read after it is the settled one.
  rw [h.password j hj (by omega)] at hpassword
  obtain ⟨raw, hraw, hissued⟩ :=
    h.issued w.secrets.top (Nat.le_refl _) o hstored (by omega)
  cases hraw.symm.trans hpassword
  cases hissued.encoded.symm.trans hkeystore
  simp [KeystoreBlob.opensWith] at hclosed

def Replaced (cluster : KahunaCluster) (T : Nat) (pw : Option PasswordSecret)
    (w : KeystoreWorld) : Prop :=
  SettledSince cluster T pw w ∧ ∀ o, w.secrets.current.keystore = some o → T < o.version

theorem SettledSince.replaced_by_delete {b : KeystoreWorld} {p : Nat}
    (h : SettledSince cluster T pw w) (hkept : PasswordKept ⟨w, .delete p, b⟩)
    (hstep : KeystoreStep cluster w (.delete p) b) : Replaced cluster T pw b := by
  refine ⟨h.step hkept hstep, ?_⟩
  obtain ⟨_, _, _, _, _, _, hgone⟩ := hstep.delete_inv
  intro o ho
  rw [hgone, w.withKeystore_current] at ho
  cases ho

theorem SettledSince.written_late (h : SettledSince cluster T pw w) (secret : KeystoreSecret) :
    ∀ o, (w.withKeystore (some (w.written secret))).current.keystore = some o →
      T < o.version := by
  intro o ho
  rw [w.withKeystore_current] at ho
  cases ho
  unfold KeystoreWorld.written
  cases w.secrets.current.keystore with
  | none => exact Nat.lt_succ_of_le h.since
  | some _ => exact Nat.lt_succ_of_le h.since

theorem Replaced.step {b : KeystoreWorld} {e : KeystoreEvent} (h : Replaced cluster T pw w)
    (hkept : PasswordKept ⟨w, e, b⟩) (hstep : KeystoreStep cluster w e b) :
    Replaced cluster T pw b ∧ ¬ DeletesKeystore ⟨w, e, b⟩ := by
  have hnot : ¬ DeletesKeystore ⟨w, e, b⟩ := by
    rintro ⟨p, rfl⟩
    obtain ⟨i, j, o, hpass, hrequest, hstored, _⟩ := hstep.delete_inv
    have hold := h.1.deletes_old hpass hrequest hstored
    have hlate := h.2 o hstored
    omega
  refine ⟨⟨h.1.step hkept hstep, ?_⟩, hnot⟩
  cases hstep with
  | setPassword pw => exact absurd rfl (hkept.1 pw)
  | issue _ _ _ => exact h.1.written_late _
  | renew _ _ _ => exact h.1.written_late _
  | readKeystore _ _ => exact h.2
  | readPassword _ _ _ => exact h.2
  | delete _ _ _ => exact absurd ⟨_, rfl⟩ hnot
  | abandon => exact h.2
  | foreign secret => exact absurd rfl (hkept.2 secret)
  | foreignRemove =>
      intro o ho
      rw [w.withKeystore_current] at ho
      cases ho

/-- A step after `T` deletes nothing, or it is the one that replaces. -/
theorem SettledSince.armed {a b : KeystoreWorld} {e : KeystoreEvent}
    (h : SettledSince cluster T pw a) (hkept : PasswordKept ⟨a, e, b⟩)
    (hstep : KeystoreStep cluster a e b) :
    (SettledSince cluster T pw b ∧ ¬ DeletesKeystore ⟨a, e, b⟩) ∨
      (Replaced cluster T pw b ∧ DeletesKeystore ⟨a, e, b⟩) := by
  by_cases hdelete : DeletesKeystore ⟨a, e, b⟩
  · obtain ⟨p, rfl⟩ := hdelete
    exact Or.inr ⟨h.replaced_by_delete hkept hstep, p, rfl⟩
  · exact Or.inl ⟨h.step hkept hstep, hdelete⟩

end settled

/-! ## Whole runs -/

structure NoKeystore (w : KeystoreWorld) : Prop where
  empty : (w.secrets.rev 0).keystore = none
  start : w.secrets.top = 0
  idle : ∀ p, w.pass p = .idle

theorem NoKeystore.secretsSound {w : KeystoreWorld} (h : NoKeystore w) : SecretsSound w where
  sound := .empty h.empty h.start
  within p := by
    rw [h.idle p]
    trivial

/-- Over every interleaving.  From the moment the password stays, at most one
keystore is deleted by the operator.  At any time, a deleted keystore carries the
annotation of this cluster's Certificate, and has been as it was read ever since
it was read. -/
theorem stale_keystore_replaced_once {cluster : KahunaCluster} {w w₁ w' : KeystoreWorld}
    {pre post : List (Transition KeystoreWorld KeystoreEvent)} (hstart : NoKeystore w)
    (hpre : Run (KeystoreStep cluster) w pre w₁) (hpost : Run (KeystoreStep cluster) w₁ post w')
    (hkept : ∀ t ∈ post, PasswordKept t) :
    ((∀ t ∈ post, ¬ DeletesKeystore t) ∨
      ∃ before t after, post = before ++ t :: after ∧ DeletesKeystore t ∧
        ∀ u ∈ before ++ after, ¬ DeletesKeystore u) ∧
    ∀ t ∈ pre ++ post, ∀ p, t.event = .delete p →
      ∃ o i j, t.before.secrets.current.keystore = some o ∧ t.before.pass p = .tested i j ∧
        o.value.annotations.lookup certManagerCertificateAnnotation =
          some (certificateName cluster) ∧
        ∀ n, i ≤ n → n ≤ t.before.secrets.top →
          (t.before.secrets.rev n).keystore = some o := by
  have hsound : SecretsSound w₁ := Run.inv SecretsSound.step hpre hstart.secretsSound
  have hsettled : SettledSince cluster w₁.secrets.top w₁.secrets.current.password w₁ := by
    refine ⟨hsound, Nat.le_refl _, ?_, ?_⟩
    · intro n hn hT
      obtain rfl : n = w₁.secrets.top := Nat.le_antisymm hn hT
      rfl
    · intro n hn o ho hlate
      have hdated := (hsound.sound.dated n o hn ho).2
      omega
  constructor
  · have hone := Run.once (O := Replaced cluster w₁.secrets.top w₁.secrets.current.password)
      (C := DeletesKeystore) SettledSince.armed (fun ho hk hs => ho.step hk hs) hpost hsettled
      hkept
    exact hone.imp_left And.right
  · refine Run.forall_mem (I := SecretsSound) SecretsSound.step ?_ (hpre.append hpost)
      hstart.secretsSound
    intro a e b h hstep p hdelete
    cases hdelete
    obtain ⟨i, j, o, hpass, hrequest, hstored, _⟩ := hstep.delete_inv
    obtain ⟨hunchanged, hannotated, _⟩ := h.tested_deleted hpass hrequest hstored
    exact ⟨o, i, j, hstored, hpass, hannotated, hunchanged⟩

/-! ## A cluster recreated under its name -/

def certifiedCluster : KahunaCluster :=
  { name := "kahuna"
    ns := "kv"
    spec := { replicas := some 3, tls := { certManager := true } } }

def generatedPassword (raw : String) : PasswordSecret := { data := [("password", raw)] }

def issuedKeystore (raw : String) : KeystoreSecret :=
  { annotations := [("cert-manager.io/certificate-name", "kahuna-tls")]
    data := [("keystore.p12", .encoded raw)] }

theorem issuedKeystore_issued (raw : String) : Issued certifiedCluster raw (issuedKeystore raw) :=
  ⟨rfl, rfl⟩

def keyless : KeystoreWorld := { secrets := { rev := fun _ => {}, top := 0 } }

/-- The password went with the cluster and is generated anew, while the keystore
has stayed. -/
def regeneratedWorld : KeystoreWorld :=
  let first := keyless.secrets.push { password := some (generatedPassword "old") }
  let issued := first.push
    { password := some (generatedPassword "old"), keystore := some ⟨2, 2, issuedKeystore "old"⟩ }
  { secrets := issued.push
      { password := some (generatedPassword "new")
        keystore := some ⟨2, 2, issuedKeystore "old"⟩ } }

theorem regeneratedWorld_run :
    ∃ pre, Run (KeystoreStep certifiedCluster) keyless pre regeneratedWorld :=
  ⟨_, .cons (.setPassword (some (generatedPassword "old")))
    (.cons (.issue rfl rfl (issuedKeystore_issued "old"))
      (.cons (.setPassword (some (generatedPassword "new"))) (.nil _)))⟩

theorem regeneratedWorld_replaced :
    ∃ post w', Run (KeystoreStep certifiedCluster) regeneratedWorld post w' ∧
      (∀ t ∈ post, PasswordKept t) ∧ ∃ t ∈ post, DeletesKeystore t := by
  have hstale : replaceStaleKeystore certifiedCluster (regeneratedWorld.secrets.rev 3).keystore
      (regeneratedWorld.secrets.rev 3).password = some (2, 2) := by decide +kernel
  refine ⟨_, _, .cons (.readKeystore (p := 0) rfl (Nat.le_refl 3))
    (.cons (.readPassword (p := 0) rfl (Nat.le_refl 3) (Nat.le_refl 3))
      (.cons (.delete (p := 0) (o := ⟨2, 2, issuedKeystore "old"⟩) rfl hstale rfl)
        (.cons (.issue rfl rfl (issuedKeystore_issued "new")) (.nil _)))), ?_, ?_⟩
  · simp [PasswordKept]
  · simp [DeletesKeystore]

/-- The keystore of the cluster before is deleted, and no other one. -/
theorem leftover_keystore_replaced :
    ∃ pre post w', Run (KeystoreStep certifiedCluster) keyless pre regeneratedWorld ∧
      Run (KeystoreStep certifiedCluster) regeneratedWorld post w' ∧
      ∃ before t after, post = before ++ t :: after ∧ DeletesKeystore t ∧
        ∀ u ∈ before ++ after, ¬ DeletesKeystore u := by
  obtain ⟨pre, hpre⟩ := regeneratedWorld_run
  obtain ⟨post, w', hpost, hkept, t, ht, hdelete⟩ := regeneratedWorld_replaced
  have hstart : NoKeystore keyless := ⟨rfl, rfl, fun _ => rfl⟩
  rcases (stale_keystore_replaced_once hstart hpre hpost hkept).1 with hnone | hone
  · exact absurd hdelete (hnone t ht)
  · exact ⟨pre, post, w', hpre, hpost, hone⟩

end KahunaOperator

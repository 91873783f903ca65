import Mathlib.Data.List.MinMax
import Phux.ByteReader
import Phux.Counters
import Phux.Fallible
import Phux.Machine

/-! The credential store of remote consumers: minting, rotation with an overlap, revocation, and
which presented secrets it admits. -/

namespace Phux.Auth

open ByteReader Option

inductive AuthError where
  | malformed (reason : String)
  | credentialNotFound (id : String)
  | credentialRevoked (id : String)
  | credentialExpired (id : String)

structure CredentialRecord where
  id : String
  verifier : String
  principal : String
  scopes : List String
  issuedAt : Int
  expiresAt : Option Int
  revokedAt : Option Int
  generation : UInt64

structure CredentialFile where
  version : UInt32
  credentials : List CredentialRecord

structure AuthenticatedCredential where
  id : String
  principal : String
  scopes : List String
  issuedAt : Int
  expiresAt : Option Int
  generation : UInt64

def tokenLen : Nat := 32

def storeVersion : UInt32 := 1

def verifierPrefix : String := "sha256:"

/-- What the operating system's random source fills. -/
abbrev Random (n : Nat) := { bytes : Bytes // bytes.length = n }

/-- SHA-256, without collisions among secrets, and hex text. -/
structure Digests where
  digest : Bytes → Bytes
  encode : Bytes → String
  decode : String → Option Bytes
  digest_length : ∀ secret, (digest secret).length = 32
  digest_inj : ∀ a b : Random tokenLen, digest a = digest b → a = b
  decode_encode : ∀ bytes, decode (encode bytes) = some bytes
  encode_ne : ∀ bytes, bytes ≠ [] → encode bytes ≠ ""

namespace CredentialRecord

def active (r : CredentialRecord) (now : Int) : Bool :=
  r.revokedAt.isNone && r.expiresAt.all (now < ·) && r.issuedAt ≤ now

def attested (r : CredentialRecord) : AuthenticatedCredential :=
  ⟨r.id, r.principal, r.scopes, r.issuedAt, r.expiresAt, r.generation⟩

def key (r : CredentialRecord) : String × UInt64 := (r.id, r.generation)

end CredentialRecord

inductive CredentialOp where
  | mint (id : Random 16) (secret : Random tokenLen) (principal : Option String)
      (scopes : List String) (expiresAt : Option Int)
  | rotate (id : String) (overlap : Int) (secret : Random tokenLen)
  | revoke (id : String)

structure CredentialCall where
  now : Int
  op : CredentialOp

def CredentialOp.issued : CredentialOp → Option (Random tokenLen)
  | mint _ secret _ _ _ | rotate _ _ secret => some secret
  | revoke _ => none

/-- The last of the records with the highest generation. -/
def CredentialFile.latest (file : CredentialFile) (id : String) : Option CredentialRecord :=
  (file.credentials.filter (·.id = id)).reverse.argmax (·.generation.toNat)

namespace Digests

variable (d : Digests)

def verifier (secret : Bytes) : String := verifierPrefix ++ d.encode (d.digest secret)

def decodeVerifier (encoded : String) : Except AuthError Bytes :=
  if !verifierPrefix.toList.isPrefixOf encoded.toList then
    .error (.malformed "credential verifier must use sha256")
  else
    match d.decode (String.ofList (encoded.toList.drop verifierPrefix.length)) with
    | none => .error (.malformed "credential verifier is not hex")
    | some bytes =>
      if bytes.length = 32 then .ok bytes
      else .error (.malformed "credential verifier has wrong length")

def isMatch (r : CredentialRecord) (presented : Bytes) : Bool :=
  match d.decodeVerifier r.verifier with
  | .ok verifier => verifier == d.digest presented
  | .error _ => false

def authenticateAt (file : CredentialFile) (presented : Bytes) (now : Int) :
    Option AuthenticatedCredential :=
  if presented.length ≠ tokenLen then none
  else
    file.credentials.foldl (fun matched r =>
      if r.active now && d.isMatch r presented then some r.attested else matched) none

def validateRecords : List (String × UInt64) → List CredentialRecord → Except AuthError Unit
  | _, [] => .ok ()
  | keys, r :: rs =>
    if r.id.isEmpty || r.principal.isEmpty || r.generation == 0 then
      .error (.malformed "credential id, principal, and generation must be present")
    else do
      let _ ← d.decodeVerifier r.verifier
      if keys.contains r.key then
        .error (.malformed s!"duplicate credential generation {r.id}:{r.generation}")
      else validateRecords (r.key :: keys) rs

def validateFile (file : CredentialFile) : Except AuthError Unit :=
  if file.version ≠ storeVersion then
    .error (.malformed s!"unsupported version {file.version} (expected {storeVersion})")
  else d.validateRecords [] file.credentials

def rotated (file : CredentialFile) (now : Int) (id : String) (overlap : Int) (secret : Bytes)
    (latest : CredentialRecord) : CredentialFile :=
  let overlapUntil := now + max overlap 0
  { file with
    credentials := (file.credentials.map fun r =>
      if r.id = id ∧ r.revokedAt = none then
        { r with expiresAt := some (r.expiresAt.elim overlapUntil (min · overlapUntil)) }
      else r) ++ [{
        id
        verifier := d.verifier secret
        principal := latest.principal
        scopes := latest.scopes
        issuedAt := now
        expiresAt := latest.expiresAt
        revokedAt := none
        generation := saturatingNext64 latest.generation }] }

/-- One operation on a store that is loaded first; what it leaves if it succeeds. -/
def perform (file : CredentialFile) (call : CredentialCall) : Except AuthError CredentialFile := do
  d.validateFile file
  match call.op with
  | .mint id secret principal scopes expiresAt =>
    return { file with
      credentials := file.credentials ++ [{
        id := d.encode id
        verifier := d.verifier secret
        principal := principal.getD ("remote-consumer:" ++ d.encode id)
        scopes
        issuedAt := call.now
        expiresAt
        revokedAt := none
        generation := 1 }] }
  | .rotate id overlap secret =>
    match file.latest id with
    | none => .error (.credentialNotFound id)
    | some latest =>
      if latest.revokedAt.isSome then .error (.credentialRevoked id)
      else if latest.expiresAt.any (· ≤ call.now) then .error (.credentialExpired id)
      else return d.rotated file call.now id overlap secret latest
  | .revoke id =>
    if file.credentials.any (·.id = id) then
      return { file with
        credentials := file.credentials.map fun r =>
          if r.id = id then { r with revokedAt := some call.now } else r }
    else .error (.credentialNotFound id)

/-- The store afterwards: an operation that fails writes nothing. -/
def after (file : CredentialFile) (call : CredentialCall) : CredentialFile :=
  match d.perform file call with
  | .ok file' => file'
  | .error _ => file

/-- A minted credential gets an id that no record has. -/
def Fresh (file : CredentialFile) (call : CredentialCall) : Prop :=
  ∀ id secret principal scopes expiresAt,
    call.op = .mint id secret principal scopes expiresAt →
      ∀ r ∈ file.credentials, r.id ≠ d.encode id

end Digests

/-- No empty principal is given to a minted credential, and no credential is rotated past the
last generation. -/
def Sound (file : CredentialFile) (call : CredentialCall) : Prop :=
  match call.op with
  | .mint _ _ principal _ _ => principal ≠ some ""
  | .rotate id _ _ =>
    ∀ r ∈ file.credentials, r.id = id → r.generation ≠ 18446744073709551615
  | .revoke _ => True

/-! ### Records over one operation -/

/-- The same generation of the same credential, which lives no longer. -/
structure Kept (r r' : CredentialRecord) : Prop where
  id : r'.id = r.id
  verifier : r'.verifier = r.verifier
  principal : r'.principal = r.principal
  generation : r'.generation = r.generation
  revoked : r.revokedAt ≠ none → r'.revokedAt ≠ none
  active : ∀ t, r'.active t = true → r.active t = true

structure Digests.WellFormed (d : Digests) (r : CredentialRecord) : Prop where
  id : r.id ≠ ""
  principal : r.principal ≠ ""
  generation : r.generation ≠ 0
  verifier : ∃ verifier, d.decodeVerifier r.verifier = .ok verifier

open Digests CredentialRecord CredentialFile

section

variable {d : Digests} {file file' : CredentialFile} {call : CredentialCall} {t : Int}

theorem Kept.refl (r : CredentialRecord) : Kept r r := ⟨rfl, rfl, rfl, rfl, fun h => h, fun _ h => h⟩

theorem decodeVerifier_verifier (secret : Bytes) :
    d.decodeVerifier (d.verifier secret) = .ok (d.digest secret) := by
  have hdrop : (d.verifier secret).toList.drop verifierPrefix.length =
      (d.encode (d.digest secret)).toList := by
    rw [Digests.verifier, String.toList_append]
    exact List.drop_left' rfl
  have hfront : verifierPrefix.toList.isPrefixOf (d.verifier secret).toList = true := by
    simp [Digests.verifier, List.isPrefixOf_iff_prefix]
  simp [decodeVerifier, hfront, hdrop, d.decode_encode, d.digest_length]

variable {id : String} {l : CredentialRecord}

theorem latest_spec (h : file.latest id = some l) : l ∈ file.credentials ∧ l.id = id ∧
      ∀ r ∈ file.credentials, r.id = id → r.generation ≤ l.generation := by
  have hmem := List.argmax_mem h
  simp only [List.mem_reverse, List.mem_filter, decide_eq_true_eq] at hmem
  refine ⟨hmem.1, hmem.2, fun r hr hid => UInt64.le_iff_toNat_le.mpr ?_⟩
  exact List.le_of_mem_argmax (f := fun r : CredentialRecord => r.generation.toNat)
    (by simp [hr, hid]) h

theorem validateRecords_iff {keys : List (String × UInt64)} {rs : List CredentialRecord} :
    d.validateRecords keys rs = .ok () ↔
      (∀ r ∈ rs, d.WellFormed r) ∧ (rs.map (·.key)).Nodup ∧ ∀ r ∈ rs, r.key ∉ keys := by
  induction rs generalizing keys with
  | nil => simp [validateRecords]
  | cons r rs ih =>
    have hwell : d.WellFormed r ↔
        ¬(r.id.isEmpty || r.principal.isEmpty || r.generation == 0) = true ∧
          ∃ verifier, d.decodeVerifier r.verifier = .ok verifier := by
      simp only [Bool.or_eq_true, String.isEmpty_iff, beq_iff_eq, not_or]
      exact ⟨fun h => ⟨⟨⟨h.id, h.principal⟩, h.generation⟩, h.verifier⟩,
        fun h => ⟨h.1.1.1, h.1.1.2, h.1.2, h.2⟩⟩
    unfold validateRecords
    rw [List.forall_mem_cons, hwell, List.map_cons, List.nodup_cons, List.forall_mem_cons]
    by_cases habsent : (r.id.isEmpty || r.principal.isEmpty || r.generation == 0) = true
    · simp [habsent]
    rw [if_neg habsent, Fallible.bind_eq_ok]
    by_cases hkey : keys.contains r.key = true
    · simp only [hkey, ↓reduceIte]
      simp at hkey
      simp [hkey]
    · simp only [hkey, Bool.false_eq_true, ↓reduceIte, ih, List.mem_cons, not_or]
      simp only [List.contains_iff_mem] at hkey
      simp only [habsent, not_false_eq_true, true_and, List.mem_map, not_exists, not_and, hkey]
      grind

theorem validateFile_iff : d.validateFile file = .ok () ↔ file.version = storeVersion ∧
    (∀ r ∈ file.credentials, d.WellFormed r) ∧ (file.credentials.map (·.key)).Nodup := by
  unfold validateFile
  by_cases hversion : file.version = storeVersion
  · simp [hversion, validateRecords_iff]
  · simp [hversion]

/-- What a successful operation does to the records: `f` to those there are, and `new` added. -/
structure Change (d : Digests) (file : CredentialFile) (call : CredentialCall)
    (f : CredentialRecord → CredentialRecord) (new : Option CredentialRecord) : Prop where
  valid : d.validateFile file = .ok ()
  kept : ∀ r, Kept r (f r)
  issued : ∀ n ∈ new, ∃ secret, call.op.issued = some secret ∧ n.verifier = d.verifier secret
  /-- A new record is another generation of a credential that is not revoked, or the first. -/
  named : d.Fresh file call → ∀ n ∈ new,
    (∃ r ∈ file.credentials, r.id = n.id ∧ r.revokedAt = none) ∨ ∀ r ∈ file.credentials, r.id ≠ n.id
  sound : d.Fresh file call →
    ((∀ n ∈ new, d.WellFormed n ∧ ∀ r ∈ file.credentials, r.key ≠ n.key) ↔ Sound file call)

/-- The store with `f` done to its records and `new` added. -/
def CredentialFile.change (file : CredentialFile) (f : CredentialRecord → CredentialRecord)
    (new : Option CredentialRecord) : CredentialFile :=
  { file with credentials := file.credentials.map f ++ new.toList }

theorem latest_key (hlatest : file.latest id = some l) :
    (∀ r ∈ file.credentials, r.key ≠ (id, saturatingNext64 l.generation)) ↔
      ∀ r ∈ file.credentials, r.id = id → r.generation ≠ 18446744073709551615 := by
  obtain ⟨hmem, hid, hmax⟩ := latest_spec hlatest
  constructor
  · intro hkey r hr hrid hlast
    have hle := hmax r hr hrid
    have hlt := l.generation.toNat_lt
    rw [hlast, UInt64.le_iff_toNat_le] at hle
    have hl : l.generation = 18446744073709551615 :=
      UInt64.toNat_inj.mp (Nat.le_antisymm (Nat.le_of_lt_succ hlt) hle)
    exact hkey l hmem (by simp [key, hid, hl, saturatingNext64, checkedNext64])
  · intro hlast r hr heq
    obtain ⟨hrid, hrgen⟩ := Prod.mk.inj heq
    obtain ⟨next, hnext⟩ : ∃ next, checkedNext64 l.generation = some next :=
      ⟨_, if_neg (hlast l hmem hid)⟩
    have hup := checkedNext64_eq_some hnext
    have hle := UInt64.le_iff_toNat_le.mp (hmax r hr hrid)
    rw [hrgen, saturatingNext64, hnext, getD_some] at hle
    omega

theorem saturatingNext64_ne_zero (n : UInt64) : saturatingNext64 n ≠ 0 := by
  cases hnext : checkedNext64 n with
  | none => simp [saturatingNext64, hnext]
  | some next =>
    have hup := checkedNext64_eq_some hnext
    rw [saturatingNext64, hnext, getD_some]
    rintro rfl
    simp at hup

theorem perform_rotate {now overlap : Int} {secret : Random tokenLen}
    (h : d.perform file ⟨now, .rotate id overlap secret⟩ = .ok file') :
    ∃ f new, Change d file ⟨now, .rotate id overlap secret⟩ f new ∧ file' = file.change f new ∧
      ∀ r t, r.id = id → (f r).active t = true → t < now + max overlap 0 := by
  obtain ⟨⟨⟩, hvalid, h⟩ := Fallible.bind_eq_ok.mp h
  obtain ⟨-, hwell, -⟩ := validateFile_iff.mp hvalid
  dsimp only at h
  split at h
  · cases h
  next l hlatest =>
  obtain ⟨hmem, hid, -⟩ := latest_spec hlatest
  split at h
  · cases h
  next hlive =>
  split at h
  · cases h
  cases h
  refine ⟨_, some _, ⟨hvalid, fun r => ?_, ?_, fun _ => ?_, fun _ => ?_⟩, rfl, fun r t hr h => ?_⟩
  · split
    · refine ⟨rfl, rfl, rfl, rfl, fun h => h, fun t h => ?_⟩
      cases hexpires : r.expiresAt <;> simp_all [active]
    · exact .refl r
  · rintro n ⟨⟩
    exact ⟨secret, rfl, rfl⟩
  · rintro n ⟨⟩
    exact .inl ⟨l, hmem, hid, by simpa using hlive⟩
  · simp only [mem_some_iff, forall_eq', Sound, ← latest_key hlatest]
    refine and_iff_right ⟨hid ▸ (hwell l hmem).id, (hwell l hmem).principal,
      saturatingNext64_ne_zero _, _, decodeVerifier_verifier _⟩
  · cases hrevoked : r.revokedAt <;> cases hexpires : r.expiresAt <;>
      simp_all [active]

theorem perform_revoke {now : Int} (h : d.perform file ⟨now, .revoke id⟩ = .ok file') :
    ∃ f, Change d file ⟨now, .revoke id⟩ f none ∧ file' = file.change f none ∧
      (∃ r ∈ file.credentials, r.id = id) ∧ ∀ r, r.id = id → (f r).revokedAt ≠ none := by
  obtain ⟨⟨⟩, hvalid, h⟩ := Fallible.bind_eq_ok.mp h
  dsimp only at h
  split at h
  · next hfound =>
    cases h
    refine ⟨_, ⟨hvalid, fun r => ?_, by simp, by simp, by simp [Sound]⟩,
      by rw [change, toList_none, List.append_nil], by simpa using hfound,
      fun r hr => by simp [hr]⟩
    split
    · exact ⟨rfl, rfl, rfl, rfl, by simp, fun t h => by simp [active] at h⟩
    · exact .refl r
  · cases h

theorem perform_change (h : d.perform file call = .ok file') :
    ∃ f new, Change d file call f new ∧ file' = file.change f new := by
  obtain ⟨now, op⟩ := call
  cases op with
  | mint id secret principal scopes expiresAt =>
    obtain ⟨⟨⟩, hvalid, h⟩ := Fallible.bind_eq_ok.mp h
    cases h
    refine ⟨fun r => r, some _, ⟨hvalid, .refl, ?_, fun hfresh => ?_, fun hfresh => ?_⟩,
      by rw [change, List.map_id']; rfl⟩
    · rintro n ⟨⟩
      exact ⟨secret, rfl, rfl⟩
    · rintro n ⟨⟩
      exact .inr (hfresh _ _ _ _ _ rfl)
    · have hid : d.encode id ≠ "" := d.encode_ne id fun h => by simpa [h] using id.2
      have hkey : ∀ r ∈ file.credentials, r.key ≠ (d.encode id, 1) := by
        intro r hr heq
        exact hfresh _ _ _ _ _ rfl r hr (congrArg Prod.fst heq)
      have hprincipal : principal.getD ("remote-consumer:" ++ d.encode id) ≠ "" ↔
          principal ≠ some "" := by
        cases principal <;> simp [hid]
      simp only [mem_some_iff, forall_eq', Sound, ← hprincipal]
      exact ⟨fun h => h.1.principal,
        fun h => ⟨⟨hid, h, (by decide : (1 : UInt64) ≠ 0), _, decodeVerifier_verifier _⟩, hkey⟩⟩
  | rotate =>
    obtain ⟨f, new, hchange, hfile, -⟩ := perform_rotate h
    exact ⟨f, new, hchange, hfile⟩
  | revoke =>
    obtain ⟨f, hchange, hfile, -⟩ := perform_revoke h
    exact ⟨f, none, hchange, hfile⟩

theorem after_of_change {P : CredentialFile → Prop} (h : P file)
    (hchange : ∀ f new, Change d file call f new → P (file.change f new)) :
    P (d.after file call) := by
  unfold after
  cases hperform : d.perform file call with
  | error e => exact h
  | ok file' =>
    obtain ⟨f, new, hc, rfl⟩ := perform_change hperform
    exact hchange f new hc

theorem Change.validateFile_iff {f : CredentialRecord → CredentialRecord}
    {new : Option CredentialRecord} (h : Change d file call f new) (hfresh : d.Fresh file call) :
    d.validateFile (file.change f new) = .ok () ↔ Sound file call := by
  obtain ⟨hversion, hwell, hkeys⟩ := Auth.validateFile_iff.mp h.valid
  have hwell' : ∀ r ∈ file.credentials, d.WellFormed (f r) := by
    intro r hr
    obtain ⟨hid, hverifier, hprincipal, hgeneration, -, -⟩ := h.kept r
    exact ⟨hid ▸ (hwell r hr).id, hprincipal ▸ (hwell r hr).principal,
      hgeneration ▸ (hwell r hr).generation, hverifier ▸ (hwell r hr).verifier⟩
  have hkey : (file.credentials.map f).map (·.key) = file.credentials.map (·.key) := by
    rw [List.map_map]
    refine List.map_congr_left fun r _ => ?_
    exact Prod.ext (h.kept r).id (h.kept r).generation
  rw [← h.sound hfresh, Auth.validateFile_iff]
  simp only [change, hversion, true_and, List.map_append, hkey,
    List.forall_mem_append, List.forall_mem_map]
  rw [and_assoc, and_iff_right hwell']
  cases new with
  | none => simp [hkeys]
  | some n => simp [List.nodup_append, hkeys]

end

/-! ### Runs -/

section

variable {d : Digests} {file : CredentialFile} {call : CredentialCall} {t : Int} {p : Bytes}
  {id : String}

theorem foldl_last {α β : Type} (q : α → Bool) (g : α → β) (l : List α) :
    l.foldl (fun last a => if q a then some (g a) else last) none = (l.reverse.find? q).map g := by
  induction l using List.reverseRecOn with
  | nil => rfl
  | append_singleton l a ih => by_cases ha : q a = true <;> simp [ha, ih]

variable {r : CredentialRecord}

theorem isMatch_iff : d.isMatch r p = true ↔ d.decodeVerifier r.verifier = .ok (d.digest p) := by
  unfold isMatch
  cases d.decodeVerifier r.verifier <;> simp

theorem active_iff : r.active t = true ↔
    r.revokedAt = none ∧ r.issuedAt ≤ t ∧ ∀ expiry ∈ r.expiresAt, t < expiry := by
  cases hexpires : r.expiresAt <;> simp [active, hexpires, and_assoc, and_comm]

variable {c : AuthenticatedCredential}

theorem authenticateAt_some (h : d.authenticateAt file p t = some c) :
    p.length = tokenLen ∧ ∃ r ∈ file.credentials, r.active t = true ∧ d.isMatch r p = true ∧
      c.id = r.id := by
  unfold authenticateAt at h
  split at h
  · cases h
  next hlength =>
  rw [foldl_last] at h
  obtain ⟨r, hr, rfl⟩ := map_eq_some_iff.mp h
  have hfound := List.find?_some hr
  rw [Bool.and_eq_true] at hfound
  exact ⟨not_not.mp hlength, r, List.mem_reverse.mp (List.mem_of_find?_eq_some hr), hfound.1,
    hfound.2, rfl⟩

theorem authenticateAt_isSome : (d.authenticateAt file p t).isSome = true ↔
    p.length = tokenLen ∧ ∃ r ∈ file.credentials, r.active t = true ∧ d.isMatch r p = true := by
  unfold authenticateAt
  by_cases hlength : p.length = tokenLen
  · rw [if_neg (not_not.mpr hlength), foldl_last]
    simp [hlength]
  · simp [hlength]

/-- A record that a secret matches, and that this operation did not issue, was there before. -/
theorem Change.lives {f : CredentialRecord → CredentialRecord} {new : Option CredentialRecord}
    {r' : CredentialRecord} (h : Change d file call f new) (hlength : p.length = tokenLen)
    (hp : ∀ secret ∈ call.op.issued, p ≠ secret) (hr' : r' ∈ (file.change f new).credentials)
    (hmatch : d.isMatch r' p = true) : ∃ r ∈ file.credentials, f r = r' ∧ d.isMatch r p = true := by
  rcases List.mem_append.mp hr' with hr' | hn
  · obtain ⟨r, hr, rfl⟩ := List.mem_map.mp hr'
    rw [isMatch_iff, (h.kept r).verifier] at hmatch
    exact ⟨r, hr, rfl, isMatch_iff.mpr hmatch⟩
  · obtain ⟨secret, hissued, hverifier⟩ := h.issued r' (mem_toList.mp hn)
    rw [isMatch_iff, hverifier, decodeVerifier_verifier, Except.ok.injEq] at hmatch
    have hsame := d.digest_inj secret ⟨p, hlength⟩ hmatch
    exact absurd (congrArg Subtype.val hsame).symm (hp secret hissued)

/-- No record of the credential that the secret matches is active at `t`. -/
def Ended (d : Digests) (id : String) (p : Bytes) (t : Int) (file : CredentialFile) : Prop :=
  ∀ r ∈ file.credentials, r.id = id → d.isMatch r p = true → r.active t = false

theorem Ended.after (hlength : p.length = tokenLen) (h : Ended d id p t file)
    (hp : ∀ secret ∈ call.op.issued, p ≠ secret) : Ended d id p t (d.after file call) := by
  refine after_of_change h fun f new hchange r' hr' hid hmatch => ?_
  obtain ⟨r, hr, rfl, hold⟩ := hchange.lives hlength hp hr' hmatch
  have hended := h r hr ((hchange.kept r).id.symm.trans hid) hold
  by_contra hactive
  simp [(hchange.kept r).active t (by simpa using hactive)] at hended

/-- The credential was there, and every generation of it is revoked. -/
def Revoked (id : String) (file : CredentialFile) : Prop :=
  (∃ r ∈ file.credentials, r.id = id) ∧ ∀ r ∈ file.credentials, r.id = id → r.revokedAt ≠ none

theorem Revoked.after (h : Revoked id file) (hfresh : d.Fresh file call) :
    Revoked id (d.after file call) := by
  refine after_of_change h fun f new hchange => ?_
  obtain ⟨⟨r, hr, hid⟩, hall⟩ := h
  refine ⟨⟨f r, List.mem_append_left _ (List.mem_map_of_mem hr),
    (hchange.kept r).id.trans hid⟩, fun r' hr' hid' => ?_⟩
  rcases List.mem_append.mp hr' with hr' | hn
  · obtain ⟨q, hq, rfl⟩ := List.mem_map.mp hr'
    exact (hchange.kept q).revoked (hall q hq ((hchange.kept q).id.symm.trans hid'))
  · rcases hchange.named hfresh r' (mem_toList.mp hn) with ⟨q, hq, hqid, hlive⟩ | hother
    · exact absurd hlive (hall q hq (hqid.trans hid'))
    · exact absurd (hid.trans hid'.symm) (hother r hr)

theorem Ended.authenticates (h : Ended d id p t file)
    (hc : d.authenticateAt file p t = some c) : c.id ≠ id := by
  obtain ⟨-, r, hr, hactive, hmatch, hid⟩ := authenticateAt_some hc
  intro heq
  simp [h r hr (hid.symm.trans heq) hmatch] at hactive

theorem Revoked.ended (h : Revoked id file) : Ended d id p t file := by
  intro r hr hid _
  have hrevoked := h.2 r hr hid
  simp [active, hrevoked]

theorem everyStep_of_forall {q : CredentialCall → Prop} {calls : List CredentialCall}
    (h : ∀ c ∈ calls, q c) : Machine.EveryStep d.after (fun _ c => q c) file calls := by
  induction calls generalizing file with
  | nil => trivial
  | cons c calls ih =>
    exact ⟨h c List.mem_cons_self, ih fun c hc => h c (List.mem_cons_of_mem _ hc)⟩

end

/-- The lifecycle of credentials, in the state after `done`, over one more operation and over what
comes `later`. A store that loads still does after an operation exactly if that is sound. -/
theorem credential_lifecycle (d : Digests) (file : CredentialFile) (done : List CredentialCall)
    (call : CredentialCall) (later : List CredentialCall) (hfile : d.validateFile file = .ok ())
    (hfresh : Machine.EveryStep d.after d.Fresh file (done ++ call :: later))
    (hsound : Machine.EveryStep d.after Sound file done) : let s := Machine.run d.after file done
    d.validateFile s = .ok () ∧
      (∀ p t, (d.authenticateAt s p t).isSome = true ↔ p.length = tokenLen ∧
        ∃ r ∈ s.credentials, d.decodeVerifier r.verifier = .ok (d.digest p) ∧
          r.revokedAt = none ∧ r.issuedAt ≤ t ∧ ∀ expiry ∈ r.expiresAt, t < expiry) ∧
      ∀ s', d.perform s call = .ok s' →
        (d.validateFile s' = .ok () ↔ Sound s call) ∧
        (∀ id overlap secret, call.op = .rotate id overlap secret →
          (∀ (p : Bytes) t, p ≠ secret → (d.authenticateAt s' p t).isSome = true →
            (d.authenticateAt s p t).isSome = true) ∧
          ∀ (p : Bytes) t c, (∀ call' ∈ call :: later, ∀ x ∈ call'.op.issued, p ≠ x) →
            call.now ≤ t → call.now + overlap ≤ t →
            d.authenticateAt (Machine.run d.after s' later) p t = some c → c.id ≠ id) ∧
        ∀ id, call.op = .revoke id → ∀ p t c,
          d.authenticateAt (Machine.run d.after s' later) p t = some c → c.id ≠ id := by
  intro s
  obtain ⟨hbefore, hnow, hlater⟩ := (Machine.everyStep_append _).mp hfresh
  refine ⟨?_, fun p t => ?_, fun s' hs' => ?_⟩
  · exact (hbefore.and hsound).invariant (P := fun file => d.validateFile file = .ok ())
      (fun _ _ hfile h => after_of_change (P := fun file => d.validateFile file = .ok ()) hfile
        fun _ _ hchange => (hchange.validateFile_iff h.1).mpr h.2) hfile
  · simp only [authenticateAt_isSome, active_iff, isMatch_iff]
    grind
  have hafter : d.after s call = s' := by simp [after, hs']
  rw [show d.after (Machine.run d.after file done) call = s' from hafter] at hlater
  obtain ⟨now, op⟩ := call
  refine ⟨?_, ?_, ?_⟩
  · obtain ⟨f, new, hchange, rfl⟩ := perform_change hs'
    exact hchange.validateFile_iff hnow
  · rintro id overlap secret ⟨⟩
    obtain ⟨f, new, hchange, rfl, hends⟩ := perform_rotate hs'
    constructor
    · intro p t hp hsome
      obtain ⟨hlength, r', hr', hactive, hmatch⟩ := authenticateAt_isSome.mp hsome
      obtain ⟨r, hr, rfl, hold⟩ := hchange.lives hlength (by simpa [CredentialOp.issued] using hp)
        hr' hmatch
      exact authenticateAt_isSome.mpr ⟨hlength, r, hr, (hchange.kept r).active t hactive, hold⟩
    · intro p t c hp hlate hover hc
      have hlength := (authenticateAt_some hc).1
      obtain ⟨hfirst, hrest⟩ := List.forall_mem_cons.mp hp
      refine Ended.authenticates ?_ hc
      refine (everyStep_of_forall hrest).invariant (fun _ _ => Ended.after hlength) ?_
      intro r' hr' hid hmatch
      obtain ⟨r, hr, rfl, -⟩ := hchange.lives hlength hfirst hr' hmatch
      by_contra hactive
      have hend := hends r t ((hchange.kept r).id.symm.trans hid) (by simpa using hactive)
      dsimp only at hlate hover
      omega
  · rintro id ⟨⟩ p t c hc
    obtain ⟨f, hchange, rfl, ⟨r, hr, hid⟩, hall⟩ := perform_revoke hs'
    refine (hlater.invariant (P := Revoked id) (fun _ _ => Revoked.after) ?_).ended.authenticates hc
    rw [Revoked, change, toList_none, List.append_nil]
    refine ⟨⟨f r, List.mem_map_of_mem hr, (hchange.kept r).id.trans hid⟩, fun r' hr' hid' => ?_⟩
    obtain ⟨q, hq, rfl⟩ := List.mem_map.mp hr'
    exact hall q ((hchange.kept q).id.symm.trans hid')

/-- Secrets as their own digest, and bytes as the characters of the same number. -/
def plainDigests : Digests where
  digest bytes := if bytes.length = 32 then bytes else List.replicate 32 0
  encode bytes := String.ofList (bytes.map fun b => Char.ofNat b.toNat)
  decode text := some (text.toList.map fun c => UInt8.ofNat c.toNat)
  digest_length bytes := by split <;> simp [*]
  digest_inj a b h := Subtype.ext (by simpa [a.2, b.2, tokenLen] using h)
  decode_encode bytes := by
    have hchar : ∀ n < 256, (Char.ofNat n).toNat = n := by decide +kernel
    have hbyte : ∀ b : UInt8, UInt8.ofNat (Char.ofNat b.toNat).toNat = b := by
      intro b
      rw [hchar b.toNat b.toNat_lt, UInt8.ofNat_toNat]
    simp [Function.comp_def, hbyte]
  encode_ne bytes h := by simpa using h

def zeros (n : Nat) : Random n := ⟨List.replicate n 0, List.length_replicate⟩

theorem credentials_refused :
    let last : CredentialFile := ⟨storeVersion, [⟨"a", plainDigests.verifier (zeros 32), "b", [], 0,
      none, none, 18446744073709551615⟩]⟩
    (∃ file', plainDigests.perform ⟨storeVersion, []⟩
        ⟨0, .mint (zeros 16) (zeros 32) (some "") [] none⟩ = .ok file' ∧
      plainDigests.validateFile file' = .error
        (.malformed "credential id, principal, and generation must be present")) ∧
    plainDigests.validateFile last = .ok () ∧
    ∃ file', plainDigests.perform last ⟨0, .rotate "a" 0 (zeros 32)⟩ = .ok file' ∧
      plainDigests.validateFile file' = .error
        (.malformed "duplicate credential generation a:18446744073709551615") :=
  ⟨⟨_, rfl, rfl⟩, rfl, _, rfl, rfl⟩

theorem rotated_credential_loads :
    let minted := plainDigests.after ⟨storeVersion, []⟩ ⟨0, .mint (zeros 16) (zeros 32) none [] none⟩
    let rotate := CredentialCall.mk 4 (.rotate (plainDigests.encode (zeros 16)) 6 (zeros 32))
    plainDigests.validateFile (plainDigests.after minted rotate) = .ok () := by
  intro minted rotate
  have hlife := credential_lifecycle plainDigests ⟨storeVersion, []⟩
    [⟨0, .mint (zeros 16) (zeros 32) none [] none⟩] rotate [] rfl
    ⟨by simp [Fresh], by simp [Fresh, rotate], trivial⟩ ⟨by simp [Sound], trivial⟩
  refine (hlife.2.2 _ rfl).1.mpr fun r hr _ => ?_
  obtain rfl := List.mem_singleton.mp hr
  decide

end Phux.Auth

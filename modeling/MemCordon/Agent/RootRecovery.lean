import MemCordon.Agent.DurableRecord
import MemCordon.Foundations.Postcondition

/-!
# Recovery of the state root

`recover_roots` of `linux/recovery.rs`: what is left in the state root and in the cgroup root after
a restart is removed when it is known to be dead, and named otherwise. The reservations of accounts
come first, then the files of interrupted transitions, then the records, and at the end the cgroups
that no record accounts for.

What the calls return is an input, call by call; only whether a path is present follows from the
directories.
-/

namespace MemCordon.RootRecovery

open Workload Fallible LineText DurableRecord PrivateAttempt

/-! ## Directories -/

/-- The name of a directory entry, as its bytes. -/
abbrev Name := List UInt8

/-- `OsStr::to_string_lossy`, which keeps a valid text. -/
class LossyNames where
  lossy : Name → Name
  lossy_eq : ∀ name, CodedText.isUtf8 name = true → lossy name = name

inductive Kind
  | file
  | directory
  | other
  deriving DecidableEq

/-- What tells a file from a later one at the same path. -/
structure Stamp where
  (dev ino len : ℕ)
  mtime : ℤ
  mtimeNsec : ℤ
  deriving DecidableEq

structure Metadata where
  kind : Kind
  (uid mode nlink : ℕ)
  stamp : Stamp

/-- A root directory: what `symlink_metadata` says of it, and the names in it. -/
inductive Root
  | absent
  | notDirectory
  | failed (e : String)
  | directory (names : List Name)

def Root.names : Root → List Name
  | directory names => names
  | _ => []

/-- How a look at a path fails. -/
inductive Fault
  | notFound
  | other (e : String)

/-- `symlink_metadata` of a path that is present or not; it may also fail for another reason. -/
def look (present : Bool) (probe : Except String Metadata) : Except Fault Metadata :=
  match probe with
  | .error e => .error (.other e)
  | .ok metadata => if present then .ok metadata else .error .notFound

/-- The directories during a recovery, the names of its authenticated records, and what it
reports. -/
structure Roots where
  (files cgroups authenticated ambiguous : List Name)
  deriving DecidableEq

abbrev Recovery := Task Roots String

def adjust (f : Roots → Roots) : Recovery Unit := Task.act { apply := f }

def report (name : Name) : Recovery Unit :=
  adjust fun w => { w with ambiguous := w.ambiguous ++ [name] }

/-- `fs::remove_file` in the state root. -/
def removeFile (removed : Except String Unit) (name : Name) : Recovery Unit := do
  Task.lift removed
  adjust fun w => { w with files := w.files.filter (· ≠ name) }

/-- `AttemptCgroup::kill_and_retire` -/
def killAndRetire (killed : Except String Unit) (name : Name) : Recovery Unit := do
  Task.lift killed
  adjust fun w => { w with cgroups := w.cgroups.filter (· ≠ name) }

def textOf (name : Name) : String := (String.fromUTF8? ⟨name.toArray⟩).getD ""

def recoveryError (e : String) : String := "MCSEALED-RECOVERY: " ++ e

/-! ## Records -/

def maxRecordBytes : ℕ :=
  16 * 1024 + Limits.publicObjectBytes + Limits.contractBytes + maxPrivateRecordBytes

/-- What the calls that read a record return. -/
structure RecordRead where
  opened : Except String Unit
  isFile : Except String Bool
  content : Except String (List UInt8)

def readRecordNoFollow (read : RecordRead) : Except String (List UInt8) := do
  read.opened.mapError recoveryError
  let isFile ← read.isFile.mapError recoveryError
  reject "MCSEALED-RECOVERY: attempt record is not a regular file" (isFile = false)
  let content ← read.content.mapError recoveryError
  let record := content.take (maxRecordBytes + 1)
  reject "MCSEALED-RECOVERY: stream did not contain valid UTF-8" (CodedText.isUtf8 record = false)
  reject "MCSEALED-RECOVERY: attempt record exceeds size limit" (maxRecordBytes < record.length)
  return record

/-- The attempt that a record names. -/
def boundIdentity (record : List UInt8) : Option Name := lookLine (CodedText.bytes "cgroup=") record

/-- `process_is_live`, where the probe is the answer to signal zero. -/
def processIsLive (live : ℤ → Bool) (pid : ℤ) : Bool := 0 < pid && live pid

/-- The frontend that a record names is alive. -/
def frontendLive (live : ℤ → Bool) (record : List UInt8) : Bool :=
  ((lookLine (CodedText.bytes "frontend-pid=") record).bind parseI32).any (processIsLive live)

/-- A record that belongs to a private attempt, in this or an earlier format. -/
def isPrivateText (record : List UInt8) : Bool :=
  (CodedText.bytes "version=4\n").isPrefixOf record ||
    (CodedText.bytes "format=memcordon.private-native-journal\n").isPrefixOf record

/-! ## Reservations -/

structure Reservation where
  format : List UInt8
  (revision userNamespaceDevice userNamespaceInode uid : ℕ)
  attempt : Nonce128
  ownerPid : ℤ
  ownerBirth : ℕ
  bootIdentity : List UInt8

/-- The decoder of a reservation: `serde_json` after the check for duplicate keys. -/
class ReservationWire where
  reservation : List UInt8 → Option Reservation

/-- What the calls for one reservation return. -/
structure ReservationProbe where
  directoryOpened : Except String Unit
  directoryMetadata : Except String Metadata
  opened : Bool
  held : Except String Metadata
  (content boot : Except String (List UInt8))
  ownerBirth : Except String ℕ
  ownerExists : Bool
  (staged boundary journal : Except String Metadata)
  journalRead : RecordRead
  journalAgain : Except String Metadata
  (journalRemoved journalSynced : Except String Unit)
  again : Except String Metadata
  (removed synced : Except String Unit)

def Reservation.fileName (r : Reservation) : Name :=
  CodedText.bytes ("account-" ++ toString r.userNamespaceDevice ++ "-" ++
    toString r.userNamespaceInode ++ "-" ++ toString r.uid ++ ".reservation")

def Reservation.identity (r : Reservation) : Name := hex r.attempt.toList

def canonicalBootIdentity (value : List UInt8) : Bool :=
  let shape := CodedText.bytes "00000000-0000-0000-0000-000000000000"
  value.length == shape.length &&
    (value.zip shape).all (fun (actual, expected) => if expected = 45 then actual == 45 else
      isHexDigit actual) &&
    value.any fun byte => (49 ≤ byte && byte ≤ 57) || (97 ≤ byte && byte ≤ 102)

/-- The checks of the fields of a reservation. -/
def Reservation.isValid (r : Reservation) (name : Name) : Prop :=
  r.format = CodedText.bytes "memcordon.account-reservation" ∧ r.revision = 1 ∧
    r.userNamespaceDevice ≠ 0 ∧
    r.userNamespaceInode ≠ 0 ∧ r.uid ≠ 0 ∧ canonicalBootIdentity r.bootIdentity = true ∧
    0 < r.ownerPid ∧ r.ownerBirth ≠ 0 ∧ r.attempt ≠ List.Vector.replicate 16 0 ∧ name = r.fileName

instance decidableIsValid (r : Reservation) (name : Name) : Decidable (r.isValid name) :=
  inferInstanceAs (Decidable (_ ∧ _))

section Definitions

variable [Sha256] [JournalWire] [PolicyWire] [ReservationWire] [LossyNames]

/-- The reservation in a file with the metadata of the file, when all checks of both pass. -/
def readReservation (p : ReservationProbe) (name : Name) :
    Except String (Option (Metadata × Reservation)) := do
  p.directoryOpened
  let directory ← p.directoryMetadata
  if directory.uid ≠ 0 ∨ directory.mode &&& 0o022 ≠ 0 ∨ p.opened = false then return none
  let held ← p.held
  if held.kind ≠ .file ∨ held.uid ≠ 0 ∨ held.nlink ≠ 1 ∨ held.mode &&& 0o7777 ≠ 0o600 ∨
      4096 < held.stamp.len then
    return none
  let content ← p.content
  let bytes := content.take 4097
  if 4096 < bytes.length then return none
  match ReservationWire.reservation bytes with
  | none => return none
  | some r => if r.isValid name then return some (held, r) else return none

/-- The process that made the reservation is gone: it belongs to another boot, or its pid is free or
was given again. -/
def creatorLost (p : ReservationProbe) (r : Reservation) : Except String Bool := do
  let boot ← p.boot
  if r.bootIdentity = boot then
    match p.ownerBirth with
    | .ok birth => return decide (r.ownerBirth < birth)
    | .error _ => return !p.ownerExists
  else return true

def isAbsent : Except Fault Metadata → Bool
  | .error .notFound => true
  | _ => false

/-- Neither a file of a transition nor a cgroup of the attempt is there. -/
def boundaryAbsent (w : Roots) (p : ReservationProbe) (identity : Name) : Bool :=
  isAbsent (look (decide (identity ++ CodedText.bytes ".new" ∈ w.files)) p.staged) &&
    isAbsent (look (decide (identity ∈ w.cgroups)) p.boundary)

/-- A journal that owns nothing but its allocation. -/
def AllocationOnly (record : PrivateAttemptRecordV4) (r : Reservation) : Prop :=
  record.attemptId.bytes = r.identity ∧ record.bootIdentity.bytes = r.bootIdentity ∧
    record.phase = .allocated ∧
    record.target = none ∧ record.namespaceInit = none ∧ record.guardian = none ∧
    record.networkNamespaceInode = none ∧ record.gatedFacts = none

instance decidableAllocationOnly (record : PrivateAttemptRecordV4) (r : Reservation) :
    Decidable (AllocationOnly record r) :=
  inferInstanceAs (Decidable (_ ∧ _))

/-- What is to be done with the journal of a reservation. -/
inductive JournalClaim
  | absent
  | retire
  | keep
  deriving DecidableEq

def journalClaim (w : Roots) (p : ReservationProbe) (r : Reservation) :
    Except String JournalClaim :=
  match look (decide (r.identity ∈ w.files)) p.journal with
  | .error .notFound => .ok .absent
  | .error (.other _) => .ok .keep
  | .ok metadata =>
    if metadata.kind = .file ∧ metadata.uid = 0 ∧ metadata.nlink = 1 ∧
        metadata.mode &&& 0o7777 = 0o600 then do
      let bytes ← readRecordNoFollow p.journalRead
      match PrivateAttemptRecordV4.parse bytes with
      | .error _ => return .keep
      | .ok record =>
        if AllocationOnly record r then
          let current ← p.journalAgain
          if metadata.stamp = current.stamp then return .retire else return .keep
        else return .keep
    else return .keep

/-- The end of a recovered reservation: the file has to be the one that was read. -/
def retireReservation (p : ReservationProbe) (name : Name) (held : Metadata) : Recovery Bool := do
  let current ← Task.lift p.again
  if current.stamp ≠ held.stamp then return false
  else
    removeFile p.removed name
    Task.lift p.synced
    return true

def claimReservation (p : ReservationProbe) (name : Name) (held : Metadata) (r : Reservation) :
    JournalClaim → Recovery Bool
  | .keep => return false
  | .absent => retireReservation p name held
  | .retire => do
    removeFile p.journalRemoved r.identity
    Task.lift p.journalSynced
    retireReservation p name held

def recoverAccountReservation (p : ReservationProbe) (name : Name) : Recovery Bool := do
  let read ← Task.lift (readReservation p name)
  match read with
  | none => return false
  | some (held, r) =>
    let lost ← Task.lift (creatorLost p r)
    let w ← Task.inspect id
    if lost = true ∧ boundaryAbsent w p r.identity = true then
      let claim ← Task.lift (journalClaim w p r)
      claimReservation p name held r claim
    else return false

/-- The entry is a reservation of an account. -/
def isReservation (name : Name) : Bool :=
  CodedText.isUtf8 name && (CodedText.bytes "account-").isPrefixOf name &&
    (CodedText.bytes ".reservation").isSuffixOf name

/-- An entry in the first pass, which is reported when it is a reservation that stays. -/
def recoverReservation (p : ReservationProbe) (name : Name) : Recovery Unit :=
  if isReservation name then do
    let recovered ← recoverAccountReservation p name
    if recovered then return () else report (LossyNames.lossy name)
  else return ()

/-- The first pass over the state root. -/
def recoverReservations (probe : Name → ReservationProbe) : List Name → Recovery Unit
  | [] => return ()
  | name :: rest => do
    recoverReservation (probe name) name
    recoverReservations probe rest

/-! ## Interrupted transitions -/

/-- What the calls for one file of a transition return. -/
structure TransitionProbe where
  (canonical temporary : Except String Metadata)
  temporaryKind : Except String Kind
  canonicalRead : RecordRead
  live : ℤ → Bool
  interruptedRead : RecordRead
  cgroup : Except String Metadata
  (killed removed synced : Except String Unit)

/-- The attempt of a file of a transition. -/
def transitionOf (name : Name) : Option Name :=
  let mark := CodedText.bytes ".new"
  if CodedText.isUtf8 name ∧ mark.isSuffixOf name ∧
      validAttemptIdentity (name.take (name.length - mark.length)) then
    some (name.take (name.length - mark.length))
  else none

/-- The record of a transition is that of a dead attempt of the launcher. -/
def canonicalDead (p : TransitionProbe) (identity : Name) : Bool :=
  match readRecordNoFollow p.canonicalRead with
  | .error _ => false
  | .ok canonical =>
    integrityValid canonical && boundIdentity canonical ==
      some identity && !isPrivateText canonical && !frontendLive p.live canonical

/-- The file of a transition belongs to no private attempt and to no other one. -/
def interruptedBelongs (p : TransitionProbe) (identity : Name) : Bool :=
  match readRecordNoFollow p.interruptedRead with
  | .error _ => false
  | .ok interrupted => !isPrivateText interrupted && (boundIdentity interrupted).all (· == identity)

/-- The checks of `interrupted_transition_is_recoverable` before it looks for the cgroup. -/
def transitionDead (w : Roots) (p : TransitionProbe) (identity : Name) : Except String Bool :=
  match look (decide (identity ∈ w.files)) p.canonical with
  | .error _ => .ok false
  | .ok canonical =>
    if canonical.kind ≠ .file then .ok false
    else do
      let temporary ← p.temporary.mapError recoveryError
      let kind ← p.temporaryKind
      return decide (kind = .file ∧ temporary.uid = canonical.uid ∧
        temporary.mode &&& 0o777 = 0o600 ∧
        temporary.nlink = 1 ∧ temporary.stamp.len ≤ maxRecordBytes) &&
        canonicalDead p identity && interruptedBelongs p identity

/-- The cgroup of a dead attempt is killed and retired, or it is not there. -/
def retireBoundary (cgroup : Except String Metadata) (killed : Except String Unit) (identity : Name)
    (unexpected : Recovery Bool) : Recovery Bool := do
  let w ← Task.inspect id
  match look (decide (identity ∈ w.cgroups)) cgroup with
  | .ok metadata =>
    if metadata.kind = .directory then
      killAndRetire killed identity
      return true
    else unexpected
  | .error .notFound => return true
  | .error (.other e) => Task.lift (.error (recoveryError e))

def interruptedTransitionIsRecoverable (p : TransitionProbe) (identity : Name) : Recovery Bool := do
  let w ← Task.inspect id
  let dead ← Task.lift (transitionDead w p identity)
  if dead then retireBoundary p.cgroup p.killed identity (return false) else return false

/-- The second pass: it returns the attempts whose transition stays. -/
def recoverTransitions (probe : Name → TransitionProbe) : List Name → Recovery (List Name)
  | [] => return []
  | name :: rest =>
    match transitionOf name with
    | none => recoverTransitions probe rest
    | some identity => do
      let recoverable ← interruptedTransitionIsRecoverable (probe name) identity
      if recoverable then
        removeFile
          ((probe name).removed.mapError
            ("MCSEALED-RECOVERY: interrupted transition rollback failed: " ++ ·)) name
        Task.lift ((probe name).synced.mapError recoveryError)
        recoverTransitions probe rest
      else
        report name
        let blocked ← recoverTransitions probe rest
        return identity :: blocked

/-! ## Attempt records -/

/-- What the calls for one record return. -/
structure RecordProbe where
  kind : Except String Kind
  read : RecordRead
  live : ℤ → Bool
  cgroup : Except String Metadata
  (killed removed : Except String Unit)

/-- The error of a boundary that is not a directory. -/
def notDirectory (identity : Name) : String :=
  "MCSEALED-RECOVERY: authenticated boundary " ++ textOf identity ++ " is not a directory"

/-- A private attempt owns more than its cgroup, and is left for an explicit recovery. -/
def keepPrivate (identity record : List UInt8) : Recovery Unit := do
  adjust fun w =>
    if ((PrivateAttemptRecordV4.parse record).toOption.any fun r => r.attemptId.bytes == identity)
        then
      { w with authenticated := w.authenticated ++ [identity] }
    else w
  report identity

def recoverText (p : RecordProbe) (identity record : List UInt8) : Recovery Unit := do
  if integrityValid record = false ∨ boundIdentity record ≠ some identity then report identity
  else if isPrivateJournal record then keepPrivate identity record
  else
    adjust fun w => { w with authenticated := w.authenticated ++ [identity] }
    if frontendLive p.live record then report identity
    else
      let _ ← retireBoundary p.cgroup p.killed identity (Task.lift (.error (notDirectory identity)))
      removeFile p.removed identity

/-- An entry with the name of an attempt. -/
def recoverRecord (p : RecordProbe) (blocked : List Name) (identity : Name) : Recovery Unit := do
  if identity ∈ blocked then report identity
  else
    let kind ← Task.lift p.kind
    if kind ≠ .file then report identity
    else
      let record ← Task.lift (readRecordNoFollow p.read)
      recoverText p identity record

/-- An entry in the third pass, which leaves the reservations and the files of transitions to the
passes before. -/
def recoverEntry (p : RecordProbe) (blocked : List Name) (name : Name) : Recovery Unit :=
  if isReservation name ∨ (transitionOf name).isSome = true then return ()
  else if CodedText.isUtf8 name ∧ validAttemptIdentity name then recoverRecord p blocked name
  else report (LossyNames.lossy name)

/-- The third pass. -/
def recoverRecords (probe : Name → RecordProbe) (blocked : List Name) : List Name → Recovery Unit
  | [] => return ()
  | name :: rest => do
    recoverEntry (probe name) blocked name
    recoverRecords probe blocked rest

/-! ## Roots -/

/-- What the calls of a recovery return. -/
structure Probes where
  (reservationsListed entriesListed cgroupsListed : Except String Unit)
  reservation : Name → ReservationProbe
  transition : Name → TransitionProbe
  record : Name → RecordProbe
  cgroupKind : Name → Except String Kind

/-- `recover_records` -/
def recoverStateRoot (P : Probes) : Recovery Unit := do
  Task.lift P.reservationsListed
  let first ← Task.inspect Roots.files
  recoverReservations P.reservation first
  Task.lift P.entriesListed
  -- The directory is read again, without what the first pass has removed.
  let entries ← Task.inspect Roots.files
  let blocked ← recoverTransitions P.transition entries
  recoverRecords P.record blocked entries

/-- An entry of the cgroup root. -/
def inspectCgroup (kind : Except String Kind) (name : Name) : Recovery Unit := do
  let kind ← Task.lift (kind.mapError recoveryError)
  match kind with
  | .file => return ()
  | .directory =>
    if CodedText.isUtf8 name ∧ validAttemptIdentity name then
      let w ← Task.inspect id
      if name ∈ w.authenticated then return () else report (LossyNames.lossy name)
    else Task.lift (.error ("MCSEALED-RECOVERY: invalid attempt directory " ++
      textOf (LossyNames.lossy name)))
  | .other =>
    Task.lift (.error ("MCSEALED-RECOVERY: unsafe cgroup entry " ++ textOf (LossyNames.lossy name)))

def inspectCgroups (kind : Name → Except String Kind) : List Name → Recovery Unit
  | [] => return ()
  | name :: rest => do
    inspectCgroup (kind name) name
    inspectCgroups kind rest

def inspectCgroupRoot (P : Probes) : Root → Recovery Unit
  | .absent => return ()
  | .notDirectory =>
    Task.lift (.error "MCSEALED-RECOVERY: cgroup root is not a no-follow directory")
  | .failed e => Task.lift (.error (recoveryError e))
  | .directory _ => do
    Task.lift P.cgroupsListed
    let names ← Task.inspect Roots.cgroups
    inspectCgroups P.cgroupKind names

/-- Neighbours that are the same, once. -/
def squeeze : List Name → List Name
  | a :: b :: rest => if a = b then squeeze (b :: rest) else a :: squeeze (b :: rest)
  | names => names

def start (state cgroup : Root) : Roots := ⟨state.names, cgroup.names, [], []⟩

def recoverState (P : Probes) : Root → Recovery Unit
  | .directory _ => recoverStateRoot P
  | .notDirectory => Task.lift (.error "MCSEALED-RECOVERY: state root is not a no-follow directory")
  | .absent => return ()
  | .failed e => Task.lift (.error (recoveryError e))

def recoverRoots (P : Probes) (state cgroup : Root) : Recovery (List Name) := do
  recoverState P state
  inspectCgroupRoot P cgroup
  let ambiguous ← Task.inspect Roots.ambiguous
  return squeeze (ambiguous.mergeSort fun a b => decide (a ≤ b))

end Definitions

end MemCordon.RootRecovery

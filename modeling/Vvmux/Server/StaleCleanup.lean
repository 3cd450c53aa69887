import Mathlib.Tactic.Common

/-!
# Reclaiming a stale session name

A session server leaves up to four files of its name behind: the session
socket, the presenter socket, its registry, and a registry under the legacy
file name.  Before a new server starts, `clean_stale` removes what a dead one
left.  The model is the one of Unix: what a file holds, and whether it can be
removed, does not change while the cleanup runs.
-/

namespace Vvmux
namespace Server

/-- The kinds of I/O errors that the cleanup tells apart or gives. -/
inductive ErrorKind
  | notFound
  | addrInUse
  | permissionDenied
  | invalidData
  | invalidInput
  | other
  deriving DecidableEq

structure IoError where
  kind : ErrorKind
  text : String
  deriving DecidableEq

/-- The operation that failed, before the text of the error. -/
def context (operation : String) (error : IoError) : IoError where
  kind := error.kind
  text := s!"{operation}: {error.text}"

inductive ProcessBirth
  | windows (creationFiletime : Nat)
  | linux (startTicks : Nat)
  | macos (startSeconds startMicroseconds : Nat)
  deriving DecidableEq

structure SessionRegistry where
  schema : Nat
  name : String
  pid : Nat
  instanceNonce : String
  vvmxVersion : Option Nat
  endpointId : Option String
  processBirth : Option ProcessBirth
  socket : Option String
  deriving DecidableEq

def registrySchema : Nat := 2

/-- The VVMX version of this build. -/
def vvmxVersion : Nat := 9

def isLowerHex (value : String) (expectedLength : Nat) : Bool :=
  value.utf8ByteSize == expectedLength &&
    value.toList.all fun byte =>
      byte.isDigit || decide ('a' ≤ byte ∧ byte ≤ 'f')

def validateSessionName (name : String) : Except IoError Unit :=
  if name.isEmpty || decide (name.utf8ByteSize > 64) || name.startsWith "." ||
      !name.toList.all fun byte =>
        byte.isAlphanum || byte == '-' || byte == '_' || byte == '.' then
    .error ⟨.invalidInput,
      "session name must be 1-64 ASCII letters, digits, '.', '-' or '_' " ++
        "and not start '.'"⟩
  else .ok ()

def validateRegistry (registry : SessionRegistry) : Except IoError Unit :=
  match validateSessionName registry.name with
  | .error error => .error error
  | .ok () =>
      if registry.pid = 0 ∨ !isLowerHex registry.instanceNonce 64 then
        .error ⟨.invalidData, "session registry has an invalid PID or nonce"⟩
      else if registry.schema = 0 then .ok ()
      else if registry.schema ≠ registrySchema ∨
          registry.vvmxVersion ≠ some vvmxVersion ∨
          registry.endpointId.all (fun value => !isLowerHex value 64) ∨
          registry.processBirth.isNone then
        .error ⟨.invalidData, "session registry schema 2 fields are invalid"⟩
      else .ok ()

def sameInstance (left right : SessionRegistry) : Bool :=
  left.schema == right.schema && left.name == right.name &&
    left.pid == right.pid && left.instanceNonce == right.instanceNonce &&
    left.endpointId == right.endpointId &&
    left.processBirth == right.processBirth

theorem sameInstance_self
    (registry : SessionRegistry) : sameInstance registry registry = true := by
  simp [sameInstance]

/-- The bytes of a registry file, as what they decode to: the reason why they
do not, or a registry. -/
abbrev RegistryBytes := Except String SessionRegistry

def decodeRegistry :
    RegistryBytes → Except IoError SessionRegistry
  | .error reason =>
      .error ⟨.invalidData, s!"invalid session registry: {reason}"⟩
  | .ok registry =>
      match validateRegistry registry with
      | .error error => .error error
      | .ok () => .ok registry

/-- What stands under the name of a registry file.  A file whose bytes cannot
be had fails with an error of its own; `found` is what `Path::exists` says of
it, which is false for a link that leads nowhere. -/
inductive RegistryFile
  | absent
  | unreadable
      (error : IoError)
      (notAbsent : error.kind ≠ .notFound)
      (found : Bool)
  | readable (bytes : RegistryBytes)

namespace RegistryFile

/-- `Path::exists`. -/
def pathExists : RegistryFile → Bool
  | absent => false
  | unreadable _ _ found => found
  | readable _ => true

def readRegistryBytes : RegistryFile → Except IoError RegistryBytes
  | absent => .error ⟨.notFound, "No such file or directory (os error 2)"⟩
  | unreadable error _ _ => .error error
  | readable bytes => .ok bytes

def readRegistryFile (file : RegistryFile) : Except IoError SessionRegistry :=
  match file.readRegistryBytes with
  | .error error => .error error
  | .ok bytes => decodeRegistry bytes

/-- This build cannot validate what the file holds. -/
def unusable (file : RegistryFile) : Bool :=
  match file.readRegistryFile with
  | .ok _ => false
  | .error error => error.kind != .notFound

/-- The file is there and holds the registry of an exact instance. -/
def holdsInstance (file : RegistryFile) (expected : SessionRegistry) : Bool :=
  file.pathExists &&
    match file.readRegistryFile with
    | .ok registry => sameInstance registry expected
    | .error _ => false

end RegistryFile

/-- The files of a session name. -/
inductive Artifact
  | socket
  | vividSocket
  | registry
  | legacyRegistry
  deriving DecidableEq

/-- What stands under the four names. -/
structure Directory where
  socket : Bool
  vividSocket : Bool
  registry : RegistryFile
  legacyRegistry : RegistryFile

namespace Directory

def artifactsExist (directory : Directory) : Bool :=
  directory.socket || directory.registry.pathExists ||
    directory.legacyRegistry.pathExists

def readRegistry (directory : Directory) : Except IoError SessionRegistry :=
  match directory.registry.readRegistryFile with
  | .ok registry => .ok registry
  | .error error =>
      if error.kind = .notFound then
        directory.legacyRegistry.readRegistryFile
      else .error error

/-- The registry that some bytes decode to, with nothing validated. -/
def readUnvalidatedRegistry (directory : Directory) : Option SessionRegistry :=
  let bytes : Except IoError RegistryBytes :=
    match directory.registry.readRegistryBytes with
    | .ok bytes => .ok bytes
    | .error _ => directory.legacyRegistry.readRegistryBytes
  match bytes with
  | .error _ => none
  | .ok bytes => bytes.toOption

def without
    (directory : Directory) :
    Artifact → Directory
  | .socket => { directory with socket := false }
  | .vividSocket => { directory with vividSocket := false }
  | .registry => { directory with registry := .absent }
  | .legacyRegistry => { directory with legacyRegistry := .absent }

end Directory

/-- What the cleanup asks the system: the births of the running processes,
which processes answer a signal, whether the session endpoint accepts a
connection, and which files can be removed. -/
structure Host where
  processBirth : Nat → Option ProcessBirth
  processAlive : Nat → Bool
  sessionIsConnectable : Bool
  removable : Artifact → Bool

namespace Host

def registryProcessMatches (host : Host) (registry : SessionRegistry) : Bool :=
  match registry.processBirth with
  | some expected => host.processBirth registry.pid == some expected
  | none => host.processAlive registry.pid

/-- `fs::remove_file`, its result dropped. -/
def removeFile
    (host : Host)
    (directory : Directory)
    (artifact : Artifact) : Directory :=
  if host.removable artifact then directory.without artifact else directory

def removeUnusableRegistry (host : Host) (directory : Directory) : Directory :=
  let directory :=
    if directory.registry.unusable then host.removeFile directory .registry
    else directory
  if directory.legacyRegistry.unusable then
    host.removeFile directory .legacyRegistry
  else directory

def removeInstance
    (host : Host)
    (directory : Directory)
    (expected : SessionRegistry) : Directory :=
  match directory.readRegistry with
  | .error _ => directory
  | .ok actual =>
      if !sameInstance actual expected then directory
      else
        let directory := host.removeFile directory .socket
        let directory := host.removeFile directory .vividSocket
        let directory :=
          if directory.registry.holdsInstance expected then
            host.removeFile directory .registry
          else directory
        if directory.legacyRegistry.holdsInstance expected then
          host.removeFile directory .legacyRegistry
        else directory

def removeStaleEndpoints (host : Host) (directory : Directory) : Directory :=
  host.removeFile (host.removeFile directory .socket) .vividSocket

def describeRecordedVersion : Option Nat → String
  | some version => s!"(VVMX v{version})"
  | none => "(no recorded VVMX version)"

def discardUnusableRegistry
    (host : Host)
    (directory : Directory) : Except IoError Unit × Directory :=
  match directory.readRegistry with
  | .ok _ => (.ok (), directory)
  | .error error =>
      if error.kind = .notFound then (.ok (), directory)
      else
        match directory.readUnvalidatedRegistry.filter
            host.registryProcessMatches with
        | some registry =>
            (.error ⟨.addrInUse,
              s!"session server PID {registry.pid} " ++
                describeRecordedVersion registry.vvmxVersion ++
                " is running but its endpoint is unavailable; " ++
                "stop it before starting this build"⟩, directory)
        | none =>
            let directory := host.removeUnusableRegistry directory
            match directory.readRegistry with
            | .ok _ => (.ok (), directory)
            | .error retry =>
                if retry.kind = .notFound then (.ok (), directory)
                else
                  (.error (context "validate stale session registry" error),
                    directory)

/-- The part of `clean_stale` behind the unusable registries. -/
def reclaimInstance
    (host : Host)
    (directory : Directory) : Except IoError Unit × Directory :=
  match directory.readRegistry with
  | .ok registry =>
      if host.registryProcessMatches registry then
        (.error ⟨.addrInUse,
          "session owner is alive but its endpoint is unavailable"⟩, directory)
      else
        let directory := host.removeInstance directory registry
        if directory.artifactsExist then
          (.error ⟨.permissionDenied,
            "could not remove the exact stale session instance"⟩, directory)
        else (.ok (), host.removeStaleEndpoints directory)
  | .error error =>
      if error.kind = .notFound then
        (.ok (), host.removeStaleEndpoints directory)
      else
        (.error (context "validate stale session registry" error), directory)

def cleanStale
    (host : Host)
    (directory : Directory) : Except IoError Unit × Directory :=
  if !directory.artifactsExist then (.ok (), directory)
  else if host.sessionIsConnectable then
    (.error ⟨.addrInUse, "session already exists"⟩, directory)
  else
    match host.discardUnusableRegistry directory with
    | (.error error, directory) => (.error error, directory)
    | (.ok (), directory) => host.reclaimInstance directory

end Host

/-! ## What the registry files say -/

namespace RegistryFile

/-- This build can validate what the file holds. -/
def usable (file : RegistryFile) : Bool :=
  file.readRegistryFile.isOk

end RegistryFile

/-- The file parses as a registry, and its process is still running. -/
def Host.recordsOwner
    (host : Host) :
    RegistryFile → Bool
  | .readable (.ok registry) => host.registryProcessMatches registry
  | _ => false

namespace RegistryFile

variable {bytes : RegistryBytes}

theorem decodeRegistry_eq_ok
    {registry : SessionRegistry}
    (decodes : decodeRegistry bytes = .ok registry) : bytes = .ok registry := by
  cases bytes with
  | error reason => cases decodes
  | ok decoded =>
      simp only [decodeRegistry] at decodes
      split at decodes
      · cases decodes
      · rw [Except.ok.inj decodes]

/-- No error of the decoder says that a file is missing. -/
theorem decodeRegistry_kind
    {error : IoError}
    (fails : decodeRegistry bytes = .error error) : error.kind ≠ .notFound := by
  cases bytes with
  | error reason =>
      cases fails
      simp
  | ok decoded =>
      simp only [decodeRegistry] at fails
      split at fails
      next invalid validated =>
        cases fails
        unfold validateRegistry validateSessionName at validated
        split at validated
        next named =>
          split at named <;> cases named
          cases validated
          simp
        · split at validated
          · cases validated
            simp
          · split at validated
            · cases validated
            · split at validated <;> cases validated
              simp
      · cases fails

theorem readRegistryFile_eq_ok
    {file : RegistryFile}
    {registry : SessionRegistry}
    (reads : file.readRegistryFile = .ok registry) :
    file = .readable (.ok registry) := by
  cases file with
  | absent => cases reads
  | unreadable => cases reads
  | readable bytes => rw [decodeRegistry_eq_ok reads]

/-- A registry file is missing, or this build can validate it, or not. -/
theorem standing
    (file : RegistryFile) :
    file = .absent ∨
      (∃ registry, file.readRegistryFile = .ok registry) ∨
      ∃ error, file.readRegistryFile = .error error ∧
        error.kind ≠ .notFound := by
  cases file with
  | absent => exact .inl rfl
  | unreadable error notAbsent =>
      exact .inr (.inr ⟨error, rfl, notAbsent⟩)
  | readable bytes =>
      right
      cases decoded : decodeRegistry bytes with
      | ok registry => exact .inl ⟨registry, decoded⟩
      | error error =>
          exact .inr ⟨error, decoded, decodeRegistry_kind decoded⟩

end RegistryFile

/-! ## What the operations do to the files -/

namespace Host

section

variable (host : Host) (directory : Directory)

theorem removeFile_socket :
    host.removeFile directory .socket =
      { directory with
        socket := directory.socket && !host.removable .socket } := by
  unfold removeFile
  cases host.removable .socket <;> simp [Directory.without]

theorem removeFile_vividSocket :
    host.removeFile directory .vividSocket =
      { directory with
        vividSocket :=
          directory.vividSocket && !host.removable .vividSocket } := by
  unfold removeFile
  cases host.removable .vividSocket <;> simp [Directory.without]

/-- A registry file behind a step that removes it under a condition. -/
def remains
    (artifact : Artifact)
    (goes : Bool)
    (file : RegistryFile) : RegistryFile :=
  if goes && host.removable artifact then .absent else file

theorem removeFile_registry
    (goes : Bool) :
    (if goes then host.removeFile directory .registry else directory) =
      { directory with
        registry := host.remains .registry goes directory.registry } := by
  unfold removeFile remains
  cases goes <;> cases host.removable .registry <;> rfl

theorem removeFile_legacyRegistry
    (goes : Bool) :
    (if goes then host.removeFile directory .legacyRegistry
      else directory) =
      { directory with
        legacyRegistry :=
          host.remains .legacyRegistry goes directory.legacyRegistry } := by
  unfold removeFile remains
  cases goes <;> cases host.removable .legacyRegistry <;> rfl

/-- The sockets are removed where they can be. -/
theorem removeStaleEndpoints_eq :
    host.removeStaleEndpoints directory =
      { directory with
        socket := directory.socket && !host.removable .socket
        vividSocket :=
          directory.vividSocket && !host.removable .vividSocket } := by
  unfold removeStaleEndpoints
  rw [removeFile_vividSocket, removeFile_socket]

theorem removeUnusableRegistry_eq :
    host.removeUnusableRegistry directory =
      { directory with
        registry :=
          host.remains .registry directory.registry.unusable
            directory.registry
        legacyRegistry :=
          host.remains .legacyRegistry directory.legacyRegistry.unusable
            directory.legacyRegistry } := by
  simp only [removeUnusableRegistry, removeFile_registry,
    removeFile_legacyRegistry]

/-- Of an instance that is there, the sockets and each file that holds the
instance are removed. -/
theorem removeInstance_eq
    {registry : SessionRegistry}
    (reads : directory.readRegistry = .ok registry) :
    host.removeInstance directory registry =
      { socket := directory.socket && !host.removable .socket
        vividSocket :=
          directory.vividSocket && !host.removable .vividSocket
        registry :=
          host.remains .registry (directory.registry.holdsInstance registry)
            directory.registry
        legacyRegistry :=
          host.remains .legacyRegistry
            (directory.legacyRegistry.holdsInstance registry)
            directory.legacyRegistry } := by
  simp only [removeInstance, reads, sameInstance_self, Bool.not_true,
    Bool.false_eq_true, if_false, removeFile_registry,
    removeFile_legacyRegistry, removeFile_socket, removeFile_vividSocket]

end

/-- Two files of one instance have one owner. -/
theorem registryProcessMatches_of_sameInstance
    (host : Host)
    {left right : SessionRegistry}
    (same : sameInstance left right = true) :
    host.registryProcessMatches left = host.registryProcessMatches right := by
  simp only [sameInstance, Bool.and_eq_true, beq_iff_eq] at same
  simp only [registryProcessMatches, same]

end Host

/-! ## What becomes of a directory -/

namespace Directory

variable {directory : Directory}

theorem readRegistry_registry
    {registry : SessionRegistry}
    (reads : directory.registry.readRegistryFile = .ok registry) :
    directory.readRegistry = .ok registry := by
  simp only [readRegistry, reads]

theorem readRegistry_legacyRegistry
    (missing : directory.registry = .absent) :
    directory.readRegistry = directory.legacyRegistry.readRegistryFile := by
  simp [readRegistry, missing, RegistryFile.readRegistryFile,
    RegistryFile.readRegistryBytes]

theorem readRegistry_error
    {error : IoError}
    (fails : directory.registry.readRegistryFile = .error error)
    (other : error.kind ≠ .notFound) :
    directory.readRegistry = .error error := by
  simp only [readRegistry, fails, if_neg other]

end Directory

namespace Host

variable {host : Host} {directory : Directory}

variable {registry : SessionRegistry} {error : IoError}

/-- A live instance is left as it is. -/
theorem reclaimInstance_live
    (reads : directory.readRegistry = .ok registry)
    (live : host.registryProcessMatches registry = true) :
    ∃ error, host.reclaimInstance directory = (.error error, directory) := by
  simp only [reclaimInstance, reads, live, if_true]
  exact ⟨_, rfl⟩

/-- A dead instance is removed, and what is still there is an error. -/
theorem reclaimInstance_dead
    (host : Host)
    (reads : directory.readRegistry = .ok registry)
    (dead : host.registryProcessMatches registry = false) :
    (host.reclaimInstance directory).2 =
        host.removeInstance directory registry ∧
      ((host.reclaimInstance directory).1 = .ok () ↔
        (host.removeInstance directory registry).artifactsExist = false) := by
  simp only [reclaimInstance, reads, dead, Bool.false_eq_true, if_false]
  split
  next found => simp [found]
  next missing =>
    refine ⟨?_, iff_of_true rfl (eq_false_of_ne_true missing)⟩
    simp [removeStaleEndpoints_eq, removeInstance_eq host _ reads]

/-- With no registry, the sockets go. -/
theorem reclaimInstance_missing
    (reads : directory.readRegistry = .error error)
    (missing : error.kind = .notFound) :
    host.reclaimInstance directory =
      (.ok (), host.removeStaleEndpoints directory) := by
  simp only [reclaimInstance, reads, missing, if_true]

/-- Unless a process that is found in the bytes lives, the files that this
build cannot validate are removed, and the rest is decided behind that. -/
theorem cleanStale_unusable
    (unreachable : host.sessionIsConnectable = false)
    (found : directory.artifactsExist = true)
    (reads : directory.readRegistry = .error error)
    (other : error.kind ≠ .notFound)
    (ownerless : directory.readUnvalidatedRegistry.filter
      host.registryProcessMatches = none) :
    (host.cleanStale directory).2 =
        (host.reclaimInstance (host.removeUnusableRegistry directory)).2 ∧
      ((host.cleanStale directory).1 = .ok () ↔
        (host.reclaimInstance (host.removeUnusableRegistry directory)).1 =
          .ok ()) := by
  simp only [cleanStale, found, unreachable, discardUnusableRegistry, reads,
    if_neg other, ownerless, Bool.not_true, Bool.false_eq_true, if_false]
  cases retried : (host.removeUnusableRegistry directory).readRegistry with
  | ok registry => simp
  | error retry =>
      by_cases missing : retry.kind = .notFound
      · simp [missing]
      · simp [missing, reclaimInstance, retried]

/-- A running process that is found in the bytes is left as it is. -/
theorem cleanStale_owner
    (unreachable : host.sessionIsConnectable = false)
    (found : directory.artifactsExist = true)
    (reads : directory.readRegistry = .error error)
    (other : error.kind ≠ .notFound)
    (owner : directory.readUnvalidatedRegistry.filter
      host.registryProcessMatches = some registry) :
    ∃ failure, host.cleanStale directory = (.error failure, directory) := by
  simp only [cleanStale, found, unreachable, discardUnusableRegistry, reads,
    if_neg other, owner, Bool.not_true, Bool.false_eq_true, if_false]
  exact ⟨_, rfl⟩

end Host

/-! ## The laws and when they hold -/

namespace Host

/-- A running owner that some registry file records makes the cleanup fail,
and keeps that file and the sockets. -/
def KeepsOwners (host : Host) (directory : Directory) : Prop :=
  let outcome := host.cleanStale directory
  (host.recordsOwner directory.registry = true →
    (∃ error, outcome.1 = .error error) ∧
      outcome.2.registry = directory.registry ∧
      outcome.2.socket = directory.socket ∧
      outcome.2.vividSocket = directory.vividSocket) ∧
  (host.recordsOwner directory.legacyRegistry = true →
    (∃ error, outcome.1 = .error error) ∧
      outcome.2.legacyRegistry = directory.legacyRegistry ∧
      outcome.2.socket = directory.socket ∧
      outcome.2.vividSocket = directory.vividSocket)

/-- Without a running owner, a cleanup that succeeds leaves no file. -/
def ClearsName (host : Host) (directory : Directory) : Prop :=
  host.recordsOwner directory.registry = false →
  host.recordsOwner directory.legacyRegistry = false →
  (host.cleanStale directory).1 = .ok () →
    (host.cleanStale directory).2 = ⟨false, false, .absent, .absent⟩

/-- A file that is there and cannot be removed. -/
def stuck (host : Host) (artifact : Artifact) (present : Bool) : Bool :=
  present && !host.removable artifact

/-- The cleanup has no reason to fail over the registry files: each is
missing, or can be removed, beside a usable current one only if it is found
and holds the same instance. -/
def RegistriesGo (host : Host) (directory : Directory) : Prop :=
  match directory.registry.readRegistryFile with
  | .ok registry =>
      host.removable .registry = true ∧
        (directory.legacyRegistry.pathExists = true →
          directory.legacyRegistry.holdsInstance registry = true ∧
            host.removable .legacyRegistry = true)
  | .error _ =>
      (directory.registry = .absent ∨ host.removable .registry = true) ∧
        (directory.legacyRegistry = .absent ∨
          host.removable .legacyRegistry = true)

/-- The condition under which the cleanup keeps its laws. -/
structure Separable (host : Host) (directory : Directory) : Prop where
  /-- Beside a usable current registry of a dead process, the legacy file
  records no running one, or no socket can be removed. -/
  sockets :
    directory.registry.usable = true →
    host.recordsOwner directory.registry = false →
    host.recordsOwner directory.legacyRegistry = true →
      (directory.socket = true → host.removable .socket = false) ∧
        (directory.vividSocket = true → host.removable .vividSocket = false)
  /-- Beside a current registry whose bytes can be had, but that is neither
  usable nor the one of a running process, the legacy file is usable, or
  records no running process, or cannot be removed. -/
  legacy :
    directory.registry.usable = false →
    directory.registry.readRegistryBytes.isOk = true →
    host.recordsOwner directory.registry = false →
    directory.legacyRegistry.usable = false →
    host.recordsOwner directory.legacyRegistry = true →
      host.removable .legacyRegistry = false
  /-- Where no file is looked at, there is none. -/
  unseen :
    directory.artifactsExist = false →
      directory.vividSocket = false ∧ directory.registry = .absent ∧
        directory.legacyRegistry = .absent
  /-- Where the registries go and none of them is usable, the session socket
  can be removed. -/
  endpoint :
    directory.artifactsExist = true →
    host.recordsOwner directory.registry = false →
    host.recordsOwner directory.legacyRegistry = false →
    host.RegistriesGo directory →
    directory.registry.usable = false →
    directory.legacyRegistry.usable = false →
      host.stuck .socket directory.socket = false
  /-- Where the registries and the session socket go, so does the presenter
  socket, and no legacy file stays unseen. -/
  presenter :
    directory.artifactsExist = true →
    host.recordsOwner directory.registry = false →
    host.recordsOwner directory.legacyRegistry = false →
    host.RegistriesGo directory →
    host.stuck .socket directory.socket = false →
      host.stuck .vividSocket directory.vividSocket = false ∧
        (directory.registry.usable = true →
          directory.legacyRegistry.pathExists = false →
            directory.legacyRegistry = .absent)

end Host

/-! ## The laws in each situation -/

namespace RegistryFile

variable {file : RegistryFile}

variable {registry : SessionRegistry}

theorem usable_of_ok
    (reads : file.readRegistryFile = .ok registry) : file.usable = true := by
  simp [usable, reads, Except.isOk, Except.toBool]

theorem usable_of_error
    {error : IoError}
    (fails : file.readRegistryFile = .error error) : file.usable = false := by
  simp [usable, fails, Except.isOk, Except.toBool]

theorem unusable_of_ok
    (reads : file.readRegistryFile = .ok registry) : file.unusable = false := by
  simp [unusable, reads]

theorem unusable_of_error
    {error : IoError}
    (fails : file.readRegistryFile = .error error)
    (other : error.kind ≠ .notFound) : file.unusable = true := by
  simpa [unusable, fails] using other

@[simp] theorem unusable_absent : absent.unusable = false := rfl

@[simp] theorem usable_absent : absent.usable = false := rfl

@[simp] theorem pathExists_absent : absent.pathExists = false := rfl

@[simp] theorem readRegistryFile_absent :
    absent.readRegistryFile =
      .error ⟨.notFound, "No such file or directory (os error 2)"⟩ := rfl

theorem pathExists_of_ok
    (reads : file.readRegistryFile = .ok registry) :
    file.pathExists = true := by
  rw [readRegistryFile_eq_ok reads]
  rfl

theorem holdsInstance_of_ok
    (reads : file.readRegistryFile = .ok registry) :
    file.holdsInstance registry = true := by
  simp [holdsInstance, pathExists_of_ok reads, reads, sameInstance_self]

end RegistryFile

namespace Host

variable {host : Host} {file : RegistryFile} {directory : Directory}

@[simp] theorem recordsOwner_absent :
    host.recordsOwner .absent = false := rfl

variable {registry : SessionRegistry} {error : IoError}

theorem recordsOwner_of_ok
    (reads : file.readRegistryFile = .ok registry) :
    host.recordsOwner file = host.registryProcessMatches registry := by
  rw [RegistryFile.readRegistryFile_eq_ok reads]
  rfl

theorem pathExists_of_recordsOwner
    (owner : host.recordsOwner file = true) : file.pathExists = true := by
  cases file with
  | readable bytes => rfl
  | absent => cases owner
  | unreadable => cases owner

/-- A file that holds the instance of a dead process has no running owner. -/
theorem recordsOwner_of_holdsInstance
    (holds : file.holdsInstance registry = true)
    (dead : host.registryProcessMatches registry = false) :
    host.recordsOwner file = false := by
  simp only [RegistryFile.holdsInstance, Bool.and_eq_true] at holds
  cases reads : file.readRegistryFile with
  | error error => simp [reads] at holds
  | ok actual =>
      rw [recordsOwner_of_ok reads,
        registryProcessMatches_of_sameInstance host (by simpa [reads] using
          holds.2)]
      exact dead

@[simp] theorem remains_absent
    {artifact : Artifact}
    {goes : Bool} : host.remains artifact goes .absent = .absent := by
  simp [remains]

/-- What remains of a file is seen if the file is, and it does not go. -/
theorem pathExists_remains
    (artifact : Artifact)
    (goes : Bool) :
    (host.remains artifact goes file).pathExists =
      (file.pathExists && !(goes && host.removable artifact)) := by
  unfold remains
  cases goes && host.removable artifact <;> simp

/-- Where no file is seen, the cleanup does nothing. -/
theorem laws_unseen
    (unseen : directory.artifactsExist = false) :
    host.KeepsOwners directory ∧ host.ClearsName directory ↔
      host.Separable directory := by
  have outcome : host.cleanStale directory = (.ok (), directory) := by
    simp [cleanStale, unseen]
  have all : directory.socket = false ∧
      directory.registry.pathExists = false ∧
      directory.legacyRegistry.pathExists = false := by
    simpa [Directory.artifactsExist, and_assoc] using unseen
  have ownerless {file : RegistryFile} (missing : file.pathExists = false) :
      host.recordsOwner file = false := by
    by_contra owner
    rw [pathExists_of_recordsOwner (eq_true_of_ne_false owner)] at missing
    cases missing
  have current := ownerless all.2.1
  have legacy := ownerless all.2.2
  obtain ⟨socket, vividSocket, registry, legacyRegistry⟩ := directory
  constructor
  · intro laws
    have cleared := laws.2 current legacy (by rw [outcome])
    rw [outcome, Directory.mk.injEq] at cleared
    exact
      { sockets := fun _ _ owner => by simp [legacy] at owner
        legacy := fun _ _ _ _ owner => by simp [legacy] at owner
        unseen := fun _ => cleared.2
        endpoint := fun found => by simp [unseen] at found
        presenter := fun found => by simp [unseen] at found }
  · intro separable
    have ends := separable.unseen unseen
    refine ⟨⟨fun owner => ?_, fun owner => ?_⟩, fun _ _ _ => ?_⟩
    · simp [current] at owner
    · simp [legacy] at owner
    · rw [outcome, Directory.mk.injEq]
      exact ⟨all.1, ends⟩

/-- A refusal that touches nothing keeps the laws. -/
theorem laws_refused
    (found : directory.artifactsExist = true)
    (refused : host.cleanStale directory = (.error error, directory))
    (guarded : directory.registry.usable = true →
      host.recordsOwner directory.registry = true)
    (first : host.recordsOwner directory.registry = true ∨
      directory.registry.readRegistryBytes.isOk = false ∧
        host.recordsOwner directory.legacyRegistry = true) :
    host.KeepsOwners directory ∧ host.ClearsName directory ↔
      host.Separable directory := by
  refine iff_of_true ⟨⟨fun _ => ?_, fun _ => ?_⟩, fun _ _ cleared => ?_⟩ ?_
  · rw [refused]
    exact ⟨⟨error, rfl⟩, rfl, rfl, rfl⟩
  · rw [refused]
    exact ⟨⟨error, rfl⟩, rfl, rfl, rfl⟩
  · rw [refused] at cleared
    cases cleared
  · have ownerless (current : host.recordsOwner directory.registry = false)
        (legacy : host.recordsOwner directory.legacyRegistry = false) :
        False := by
      simp [current, legacy] at first
    exact
      { sockets := fun usable dead _ => by simp [guarded usable] at dead
        legacy := fun _ readable dead _ _ => by simp [readable, dead] at first
        unseen := fun unseen => by simp [found] at unseen
        endpoint := fun _ current legacy _ _ _ =>
          (ownerless current legacy).elim
        presenter := fun _ current legacy _ _ =>
          (ownerless current legacy).elim }

/-- Removing a dead instance leaves a socket or a registry to be seen unless
each of them goes. -/
theorem artifactsExist_removeInstance
    (reads : directory.readRegistry = .ok registry) :
    (host.removeInstance directory registry).artifactsExist = false ↔
      host.stuck .socket directory.socket = false ∧
        (directory.registry.pathExists = true →
          directory.registry.holdsInstance registry = true ∧
            host.removable .registry = true) ∧
        (directory.legacyRegistry.pathExists = true →
          directory.legacyRegistry.holdsInstance registry = true ∧
            host.removable .legacyRegistry = true) := by
  simp only [removeInstance_eq host _ reads,
    Directory.artifactsExist, pathExists_remains, stuck, Bool.or_eq_false_iff,
    and_assoc, Bool.and_eq_false_iff, Bool.not_eq_false', Bool.and_eq_true,
    or_iff_not_imp_left, Bool.not_eq_false]

/-- Beside a usable current registry of a dead process, the laws hold unless
the sockets of a running one go, or a file stays unnoticed. -/
theorem laws_usable
    (unreachable : host.sessionIsConnectable = false)
    (reads : directory.registry.readRegistryFile = .ok registry)
    (dead : host.registryProcessMatches registry = false) :
    host.KeepsOwners directory ∧ host.ClearsName directory ↔
      host.Separable directory := by
  have read := Directory.readRegistry_registry reads
  have found : directory.artifactsExist = true := by
    simp [Directory.artifactsExist, RegistryFile.pathExists_of_ok reads]
  have usable := RegistryFile.usable_of_ok reads
  have current : host.recordsOwner directory.registry = false := by
    rw [recordsOwner_of_ok reads, dead]
  have outcome : host.cleanStale directory =
      host.reclaimInstance directory := by
    simp [cleanStale, found, unreachable, discardUnusableRegistry, read]
  obtain ⟨after, succeeds⟩ := reclaimInstance_dead host read dead
  rw [← outcome] at after succeeds
  rw [artifactsExist_removeInstance read] at succeeds
  have holds := RegistryFile.holdsInstance_of_ok reads
  have goes : (directory.registry.pathExists = true →
      directory.registry.holdsInstance registry = true ∧
        host.removable .registry = true) ↔
      host.removable .registry = true := by
    simp [holds, RegistryFile.pathExists_of_ok reads]
  rw [goes] at succeeds
  have fails (owner :
      host.recordsOwner directory.legacyRegistry = true) :
      ∃ error, (host.cleanStale directory).1 = .error error := by
    cases result : (host.cleanStale directory).1 with
    | error error => exact ⟨error, rfl⟩
    | ok done =>
        have other := ((succeeds.1 (by rw [result])).2.2
          (pathExists_of_recordsOwner owner)).1
        rw [recordsOwner_of_holdsInstance other dead] at owner
        cases owner
  constructor
  · intro laws
    refine
      { sockets := fun _ _ owner => ?_
        legacy := fun unusable => by simp [usable] at unusable
        unseen := fun unseen => by simp [found] at unseen
        endpoint := fun _ _ _ _ unusable => by simp [usable] at unusable
        presenter := fun _ _ legacy registriesGo free => ?_ }
    · obtain ⟨-, -, socket, vividSocket⟩ := laws.1.2 owner
      rw [after, removeInstance_eq host _ read] at socket vividSocket
      constructor
      · intro present
        simpa [present] using socket
      · intro present
        simpa [present] using vividSocket
    · simp only [RegistriesGo, reads] at registriesGo
      have cleared := laws.2 current legacy (succeeds.2 ⟨free, registriesGo⟩)
      rw [after, removeInstance_eq host _ read,
        Directory.mk.injEq] at cleared
      refine ⟨cleared.2.1, fun _ unseen => ?_⟩
      have stays : directory.legacyRegistry.holdsInstance registry =
          false := by
        simp [RegistryFile.holdsInstance, unseen]
      simpa [remains, stays] using cleared.2.2.2
  · intro separable
    refine ⟨⟨fun owner => by simp [current] at owner, fun owner => ?_⟩,
      fun _ legacy done => ?_⟩
    · obtain ⟨socket, vividSocket⟩ := separable.sockets usable current owner
      refine ⟨fails owner, ?_⟩
      have kept : directory.legacyRegistry.holdsInstance registry =
          false := by
        by_contra other
        rw [recordsOwner_of_holdsInstance (eq_true_of_ne_false other)
          dead] at owner
        cases owner
      rw [after, removeInstance_eq host _ read]
      refine ⟨by simp [remains, kept], ?_, ?_⟩
      · cases present : directory.socket <;> simp [present, socket]
      · cases present : directory.vividSocket <;> simp [present, vividSocket]
    · obtain ⟨free, registriesGo⟩ := succeeds.1 done
      have ends := separable.presenter found current legacy
        (by simpa only [RegistriesGo, reads] using registriesGo) free
      rw [after, removeInstance_eq host _ read,
        Directory.mk.injEq]
      refine ⟨free, ends.1, by simp [remains, holds, registriesGo.1], ?_⟩
      cases seen : directory.legacyRegistry.pathExists with
      | true => simp [remains, registriesGo.2 seen]
      | false =>
          rw [ends.2 usable seen]
          exact remains_absent

/-- A registry that stays unusable is an error. -/
theorem reclaimInstance_unusable
    (reads : directory.readRegistry = .error error)
    (other : error.kind ≠ .notFound) :
    ∃ failure,
      host.reclaimInstance directory = (.error failure, directory) := by
  simp only [reclaimInstance, reads, if_neg other]
  exact ⟨_, rfl⟩

/-- What the removal of the unusable files leads to, for a current registry
that is not usable: it fails and has touched only unusable files, or the
registries are gone and the sockets go, or the legacy instance decides. -/
theorem reclaimInstance_removeUnusableRegistry
    (host : Host)
    (fails : directory.registry.readRegistryFile = .error error) :
    let cleaned := host.removeUnusableRegistry directory
    (∃ failure, host.reclaimInstance cleaned = (.error failure, cleaned)) ∧
        (host.RegistriesGo directory →
          host.recordsOwner directory.legacyRegistry = true) ∨
      host.reclaimInstance cleaned =
          (.ok (), host.removeStaleEndpoints
            { directory with
              registry := .absent
              legacyRegistry := .absent }) ∧
        host.RegistriesGo directory ∧
        directory.legacyRegistry.usable = false ∨
      ∃ registry,
        directory.legacyRegistry.readRegistryFile = .ok registry ∧
          host.registryProcessMatches registry = false ∧
          cleaned = { directory with registry := .absent } ∧
          (directory.registry = .absent ∨
            host.removable .registry = true) := by
  intro cleaned
  have cleanedEq : cleaned = _ := removeUnusableRegistry_eq host directory
  simp only [RegistriesGo, fails]
  by_cases goes : directory.registry = .absent ∨
      host.removable .registry = true
  · have gone : host.remains .registry directory.registry.unusable
        directory.registry = .absent := by
      rcases directory.registry.standing with missing | ⟨registry, reads⟩ |
          ⟨failure, reads, other⟩
      · rw [missing]
        exact remains_absent
      · rw [reads] at fails
        cases fails
      · rcases goes with missing | removable
        · rw [missing]
          exact remains_absent
        · simp [remains, removable, RegistryFile.unusable_of_error reads other]
    rw [gone] at cleanedEq
    have read : cleaned.readRegistry = _ :=
      Directory.readRegistry_legacyRegistry (by rw [cleanedEq])
    rcases directory.legacyRegistry.standing with missing |
        ⟨registry, reads⟩ | ⟨failure, reads, other⟩
    · right; left
      rw [missing, remains_absent] at cleanedEq
      rw [cleanedEq] at read
      refine ⟨?_, ⟨goes, .inl missing⟩, by rw [missing]; rfl⟩
      rw [cleanedEq, reclaimInstance_missing read rfl]
    · have cleanedEq : cleaned = { directory with registry := .absent } := by
        rw [cleanedEq, RegistryFile.unusable_of_ok reads]
        rfl
      cases live : host.registryProcessMatches registry with
      | false =>
          exact .inr (.inr ⟨registry, reads, live, cleanedEq, goes⟩)
      | true =>
          left
          have again : cleaned.readRegistry = .ok registry := by
            rw [read, cleanedEq]
            exact reads
          refine ⟨reclaimInstance_live again live, fun _ => ?_⟩
          · rw [recordsOwner_of_ok reads, live]
    · have unusable := RegistryFile.unusable_of_error reads other
      cases removable : host.removable .legacyRegistry with
      | true =>
          right; left
          simp only [remains, unusable, removable, Bool.and_self,
            if_true] at cleanedEq
          rw [cleanedEq] at read
          refine ⟨?_, ⟨goes, .inr rfl⟩, RegistryFile.usable_of_error reads⟩
          rw [cleanedEq, reclaimInstance_missing read rfl]
      | false =>
          left
          simp only [remains, removable, Bool.and_false, Bool.false_eq_true,
            if_false] at cleanedEq
          have again : cleaned.readRegistry = .error failure := by
            rw [read, cleanedEq]
            exact reads
          refine ⟨reclaimInstance_unusable again other,
            fun registriesGo => ?_⟩
          rcases registriesGo.2 with missing | impossible
          · rw [missing] at reads
            cases reads
            exact (other rfl).elim
          · cases impossible
  · left
    push Not at goes
    have other : error.kind ≠ .notFound := by
      rcases directory.registry.standing with missing | ⟨registry, reads⟩ |
          ⟨failure, reads, other⟩
      · exact (goes.1 missing).elim
      · rw [reads] at fails
        cases fails
      · rw [reads] at fails
        cases fails
        exact other
    have again : cleaned.readRegistry = .error error := by
      refine Directory.readRegistry_error ?_ other
      rw [cleanedEq]
      simpa [remains, goes.2] using fails
    exact ⟨reclaimInstance_unusable again other,
      fun registriesGo => (registriesGo.1.elim goes.1 goes.2).elim⟩

/-- Without a usable current registry, and with no running owner found in the
bytes, the laws hold unless the registry of one goes, or a socket stays. -/
theorem laws_unusable
    (found : directory.artifactsExist = true)
    (fails : directory.registry.readRegistryFile = .error error)
    (outcome :
      let reclaimed :=
        host.reclaimInstance (host.removeUnusableRegistry directory)
      (host.cleanStale directory).2 = reclaimed.2 ∧
        ((host.cleanStale directory).1 = .ok () ↔ reclaimed.1 = .ok ()))
    (current : host.recordsOwner directory.registry = false)
    (noticed : directory.legacyRegistry.usable = false →
      host.recordsOwner directory.legacyRegistry = true →
        directory.registry.readRegistryBytes.isOk = true) :
    host.KeepsOwners directory ∧ host.ClearsName directory ↔
      host.Separable directory := by
  have unusable := RegistryFile.usable_of_error fails
  have cleanedEq := removeUnusableRegistry_eq host directory
  obtain ⟨after, succeeds⟩ := outcome
  have cases := reclaimInstance_removeUnusableRegistry host fails
  simp only at cases
  constructor
  · intro laws
    have clears := laws.2 current
    rw [after, succeeds] at clears
    refine
      { sockets := fun usable => by simp [unusable] at usable
        legacy := fun _ _ _ useless owner => ?_
        unseen := fun unseen => by simp [found] at unseen
        endpoint := fun _ _ legacy registriesGo _ useless => ?_
        presenter := fun _ _ legacy registriesGo free => ?_ }
    · obtain ⟨-, kept, -⟩ := laws.1.2 owner
      by_contra removable
      rw [Bool.not_eq_false] at removable
      have gone : (host.removeUnusableRegistry directory).legacyRegistry =
          .absent := by
        rcases directory.legacyRegistry.standing with missing |
            ⟨registry, reads⟩ | ⟨failure, reads, other⟩
        · rw [missing] at owner
          cases owner
        · rw [RegistryFile.usable_of_ok reads] at useless
          cases useless
        · rw [cleanedEq]
          simp [remains, RegistryFile.unusable_of_error reads other,
            removable]
      have lost : (host.reclaimInstance
          (host.removeUnusableRegistry directory)).2.legacyRegistry =
            .absent := by
        rcases cases with ⟨⟨failure, refused⟩, -⟩ | ⟨cleared, -⟩ |
            ⟨registry, reads, -⟩
        · rw [refused, gone]
        · rw [cleared, removeStaleEndpoints_eq]
        · rw [RegistryFile.usable_of_ok reads] at useless
          cases useless
      rw [after, lost] at kept
      rw [← kept] at owner
      cases owner
    · rcases cases with ⟨-, owner⟩ | ⟨cleared, -⟩ | ⟨registry, reads, -⟩
      · rw [owner registriesGo] at legacy
        cases legacy
      · have empty := clears legacy (by rw [cleared])
        rw [cleared, removeStaleEndpoints_eq, Directory.mk.injEq] at empty
        exact empty.1
      · rw [RegistryFile.usable_of_ok reads] at useless
        cases useless
    · refine ⟨?_, fun usable => by simp [unusable] at usable⟩
      rcases cases with ⟨-, owner⟩ | ⟨cleared, -⟩ |
          ⟨registry, reads, dead, cleaned, -⟩
      · rw [owner registriesGo] at legacy
        cases legacy
      · have empty := clears legacy (by rw [cleared])
        rw [cleared, removeStaleEndpoints_eq, Directory.mk.injEq] at empty
        exact empty.2.1
      · have read : Directory.readRegistry
            { directory with registry := .absent } = .ok registry := by
          rw [Directory.readRegistry_legacyRegistry rfl]
          exact reads
        have done := reclaimInstance_dead host read dead
        rw [artifactsExist_removeInstance read] at done
        rw [cleaned, done.2, done.1, removeInstance_eq host _ read] at clears
        simp only [RegistriesGo, fails] at registriesGo
        have empty := clears legacy
          ⟨free, (fun seen => by cases seen), fun seen =>
            ⟨RegistryFile.holdsInstance_of_ok reads,
              registriesGo.2.resolve_left fun missing => by
                rw [missing] at reads
                cases reads⟩⟩
        rw [Directory.mk.injEq] at empty
        exact empty.2.1
  · intro separable
    refine ⟨⟨fun owner => by simp [current] at owner, fun owner => ?_⟩,
      fun _ legacy done => ?_⟩
    · have kept : (host.removeUnusableRegistry directory).legacyRegistry =
          directory.legacyRegistry := by
        rw [cleanedEq]
        cases useless : directory.legacyRegistry.usable with
        | true =>
            rcases directory.legacyRegistry.standing with missing |
                ⟨registry, reads⟩ | ⟨failure, reads, -⟩
            · rw [missing] at owner
              cases owner
            · simp [remains, RegistryFile.unusable_of_ok reads]
            · rw [RegistryFile.usable_of_error reads] at useless
              cases useless
        | false =>
            simp [remains, separable.legacy unusable (noticed useless owner)
              current useless owner]
      have refused : ∃ failure,
          host.reclaimInstance (host.removeUnusableRegistry directory) =
            (.error failure, host.removeUnusableRegistry directory) := by
        rcases cases with ⟨refused, -⟩ | ⟨cleared, registriesGo, useless⟩ |
            ⟨registry, reads, dead, -⟩
        · exact refused
        · simp only [RegistriesGo, fails] at registriesGo
          rcases registriesGo.2 with missing | removable
          · rw [missing] at owner
            cases owner
          · have safe := separable.legacy unusable (noticed useless owner)
              current useless owner
            rw [removable] at safe
            cases safe
        · rw [recordsOwner_of_ok reads, dead] at owner
          cases owner
      obtain ⟨failure, refused⟩ := refused
      rw [after, refused]
      refine ⟨?_, kept, by rw [cleanedEq], by rw [cleanedEq]⟩
      cases result : (host.cleanStale directory).1 with
      | error error => exact ⟨error, rfl⟩
      | ok done =>
          have impossible := succeeds.1 result
          rw [refused] at impossible
          cases impossible
    · rw [after]
      rw [succeeds] at done
      rcases cases with ⟨⟨failure, refused⟩, -⟩ |
          ⟨cleared, registriesGo, useless⟩ |
          ⟨registry, reads, dead, cleaned, goes⟩
      · rw [refused] at done
        cases done
      · have free := separable.endpoint found current legacy registriesGo
          unusable useless
        have ends := separable.presenter found current legacy registriesGo
          free
        rw [cleared, removeStaleEndpoints_eq, Directory.mk.injEq]
        exact ⟨free, ends.1, rfl, rfl⟩
      · have read : Directory.readRegistry
            { directory with registry := .absent } = .ok registry := by
          rw [Directory.readRegistry_legacyRegistry rfl]
          exact reads
        have result := reclaimInstance_dead host read dead
        rw [artifactsExist_removeInstance read] at result
        rw [cleaned, result.2] at done
        obtain ⟨free, -, registriesGo⟩ := done
        have other := registriesGo (RegistryFile.pathExists_of_ok reads)
        have ends := separable.presenter found current legacy
          (by simpa only [RegistriesGo, fails] using ⟨goes, .inr other.2⟩)
          free
        rw [cleaned, result.1, removeInstance_eq host _ read,
          Directory.mk.injEq]
        exact ⟨free, ends.1, remains_absent, by
          simp only [remains, other.1, other.2, Bool.and_self, if_true]⟩

/-- The bytes of the current registry decide where they can be had, and the
ones of the legacy registry otherwise. -/
theorem readUnvalidatedRegistry_filter
    (host : Host)
    (directory : Directory) :
    (∃ registry, directory.readUnvalidatedRegistry.filter
          host.registryProcessMatches = some registry ∧
        (host.recordsOwner directory.registry = true ∨
          directory.registry.readRegistryBytes.isOk = false ∧
            host.recordsOwner directory.legacyRegistry = true)) ∨
      directory.readUnvalidatedRegistry.filter
          host.registryProcessMatches = none ∧
        host.recordsOwner directory.registry = false ∧
        (host.recordsOwner directory.legacyRegistry = true →
          directory.registry.readRegistryBytes.isOk = true) := by
  have decided (file : RegistryFile) :
      (match file.readRegistryBytes with
        | .error _ => none
        | .ok bytes => bytes.toOption).filter host.registryProcessMatches =
          none ∧ host.recordsOwner file = false ∨
      ∃ registry, (match file.readRegistryBytes with
        | .error _ => none
        | .ok bytes => bytes.toOption).filter host.registryProcessMatches =
          some registry ∧ host.recordsOwner file = true := by
    rcases file with _ | _ | (_ | registry)
    · exact .inl ⟨rfl, rfl⟩
    · exact .inl ⟨rfl, rfl⟩
    · exact .inl ⟨rfl, rfl⟩
    · cases live : host.registryProcessMatches registry with
      | false => exact .inl ⟨by simp [RegistryFile.readRegistryBytes,
          Except.toOption, Option.filter, live], live⟩
      | true => exact .inr ⟨registry, by simp [RegistryFile.readRegistryBytes,
          Except.toOption, Option.filter, live], live⟩
  cases bytes : directory.registry.readRegistryBytes with
  | ok bytes' =>
      have same : directory.readUnvalidatedRegistry =
          match directory.registry.readRegistryBytes with
          | .error _ => none
          | .ok bytes => bytes.toOption := by
        simp only [Directory.readUnvalidatedRegistry, bytes]
      rw [same]
      rcases decided directory.registry with ⟨none, owner⟩ |
          ⟨registry, some, owner⟩
      · exact .inr ⟨none, owner, fun _ => rfl⟩
      · exact .inl ⟨registry, some, .inl owner⟩
  | error failure =>
      have current : host.recordsOwner directory.registry = false := by
        cases file : directory.registry with
        | absent => rfl
        | unreadable => rfl
        | readable bytes' =>
            rw [file] at bytes
            cases bytes
      have same : directory.readUnvalidatedRegistry =
          match directory.legacyRegistry.readRegistryBytes with
          | .error _ => none
          | .ok bytes => bytes.toOption := by
        simp only [Directory.readUnvalidatedRegistry, bytes]
      rw [same]
      rcases decided directory.legacyRegistry with ⟨none, owner⟩ |
          ⟨registry, some, owner⟩
      · exact .inr ⟨none, current, fun live => by simp [owner] at live⟩
      · exact .inl ⟨registry, some, .inr ⟨rfl, owner⟩⟩

/-- Without a current registry, the legacy one takes its place. -/
theorem laws_missing
    (unreachable : host.sessionIsConnectable = false)
    (found : directory.artifactsExist = true)
    (missing : directory.registry = .absent) :
    host.KeepsOwners directory ∧ host.ClearsName directory ↔
      host.Separable directory := by
  obtain ⟨absence, fails⟩ :
      ∃ error, directory.registry.readRegistryFile = .error error :=
    ⟨_, by rw [missing]; rfl⟩
  have current : host.recordsOwner directory.registry = false := by
    rw [missing]
    rfl
  have read := Directory.readRegistry_legacyRegistry missing
  have direct
      (useful : directory.legacyRegistry.unusable = false)
      (discards : host.discardUnusableRegistry directory =
        (.ok (), directory)) :
      host.cleanStale directory = host.reclaimInstance directory ∧
        host.removeUnusableRegistry directory = directory := by
    constructor
    · simp [cleanStale, found, unreachable, discards]
    · have kept : host.remains .registry directory.registry.unusable
          directory.registry = directory.registry := by
        rw [missing]
        exact remains_absent
      rw [removeUnusableRegistry_eq, useful, kept]
      rfl
  rcases directory.legacyRegistry.standing with empty | ⟨registry, reads⟩ |
      ⟨failure, reads, other⟩
  · have outcome := direct (by rw [empty]; rfl)
      (by simp [discardUnusableRegistry, read, empty])
    refine laws_unusable found fails ?_ current (fun _ owner => ?_)
    · rw [outcome.2, outcome.1]
      exact ⟨rfl, Iff.rfl⟩
    · rw [empty] at owner
      cases owner
  · have outcome := direct (RegistryFile.unusable_of_ok reads)
      (by simp [discardUnusableRegistry, read, reads])
    cases live : host.registryProcessMatches registry with
    | false =>
        refine laws_unusable found fails ?_ current (fun _ owner => ?_)
        · rw [outcome.2, outcome.1]
          exact ⟨rfl, Iff.rfl⟩
        · rw [recordsOwner_of_ok reads, live] at owner
          cases owner
    | true =>
        obtain ⟨failure, refused⟩ :=
          reclaimInstance_live (read.trans reads) live
        refine laws_refused found (outcome.1.trans refused) (fun usable => ?_)
          (.inr ⟨by rw [missing]; rfl, by rw [recordsOwner_of_ok reads, live]⟩)
        rw [missing] at usable
        cases usable
  · rw [reads] at read
    rcases readUnvalidatedRegistry_filter host directory with
        ⟨registry, some, owner⟩ | ⟨none, -, noticed⟩
    · obtain ⟨refusal, refused⟩ :=
        cleanStale_owner unreachable found read other some
      refine laws_refused found refused (fun usable => ?_) owner
      rw [missing] at usable
      cases usable
    · exact laws_unusable found fails
        (cleanStale_unusable unreachable found read other none)
        current fun _ => noticed

/-- The cleanup of a session name whose endpoint accepts nothing keeps every
running owner and clears the name of a dead one exactly under the condition
`Separable`. -/
theorem cleanStale_laws_iff
    (host : Host)
    (directory : Directory)
    (unreachable : host.sessionIsConnectable = false) :
    host.KeepsOwners directory ∧ host.ClearsName directory ↔
      host.Separable directory := by
  cases found : directory.artifactsExist with
  | false => exact laws_unseen found
  | true =>
      cases reads : directory.registry.readRegistryFile with
      | ok registry =>
          cases live : host.registryProcessMatches registry with
          | false => exact laws_usable unreachable reads live
          | true =>
              have read := Directory.readRegistry_registry reads
              obtain ⟨failure, refused⟩ := reclaimInstance_live read live
              have owner : host.recordsOwner directory.registry = true := by
                rw [recordsOwner_of_ok reads, live]
              have outcome : host.cleanStale directory =
                  (.error failure, directory) := by
                simp [cleanStale, found, unreachable, discardUnusableRegistry,
                  read, refused]
              exact laws_refused found outcome (fun _ => owner) (.inl owner)
      | error error =>
          have unusable := RegistryFile.usable_of_error reads
          by_cases other : error.kind = .notFound
          · have missing : directory.registry = .absent := by
              rcases directory.registry.standing with missing |
                  ⟨registry, read⟩ | ⟨failure, read, wrong⟩
              · exact missing
              · rw [read] at reads
                cases reads
              · rw [read] at reads
                cases reads
                exact (wrong other).elim
            exact laws_missing unreachable found missing
          · have read := Directory.readRegistry_error reads other
            rcases readUnvalidatedRegistry_filter host directory with
                ⟨registry, some, owner⟩ | ⟨none, current, noticed⟩
            · obtain ⟨refusal, refused⟩ :=
                cleanStale_owner unreachable found read other some
              exact laws_refused found refused
                (fun usable => by simp [unusable] at usable) owner
            · exact laws_unusable found reads
                (cleanStale_unusable unreachable found read other none)
                current fun _ => noticed

/-- A registry as a build with another schema records it. -/
def foreignRegistry (pid startTicks : Nat) : SessionRegistry where
  schema := 1
  name := "work"
  pid := pid
  instanceNonce := "00"
  vvmxVersion := some 8
  endpointId := none
  processBirth := some (.linux startTicks)
  socket := none

/-- Process 7 runs, and every file can be removed. -/
def busyHost : Host where
  processBirth pid := if pid = 7 then some (.linux 70) else none
  processAlive pid := pid = 7
  sessionIsConnectable := false
  removable _ := true

/-- The current registry is the one of a dead process, the legacy one is the
one of process 7. -/
def sharedName : Directory where
  socket := true
  vividSocket := true
  registry := .readable (.ok (foreignRegistry 6 60))
  legacyRegistry := .readable (.ok (foreignRegistry 7 70))

/-- The cleanup succeeds and removes the files of the running process. -/
theorem cleanStale_takes_running_owner :
    busyHost.sessionIsConnectable = false ∧
      busyHost.recordsOwner sharedName.legacyRegistry = true ∧
      ¬ (busyHost.KeepsOwners sharedName ∧ busyHost.ClearsName sharedName) := by
  refine ⟨rfl, by decide +kernel, fun laws => ?_⟩
  obtain ⟨-, kept, -⟩ := laws.1.2 (by decide +kernel)
  have gone : (busyHost.cleanStale sharedName).2.legacyRegistry.pathExists =
      false := by
    decide +kernel
  rw [kept] at gone
  cases gone

theorem cleanStale_laws_iff_sharedName :
    busyHost.KeepsOwners sharedName ∧ busyHost.ClearsName sharedName ↔
      busyHost.Separable sharedName :=
  cleanStale_laws_iff busyHost sharedName rfl

end Host

end Server
end Vvmux

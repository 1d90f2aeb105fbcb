import ChaosLibs.Common.Clock
import ChaosLibs.Io.ChangeStamp
import ChaosLibs.Io.ConfigParser

/-!
# The refresh of libchaos-io

`chaos_io_config_refresh` and `chaos_io_config_reload` as the steps of one
thread over the words the threads of a process share.  A step is one access to
a shared word or one system call; what a system call or a clock answers is an
input of the step, so that every environment can drive it.

Left out are the hit slots (their own machine takes the outcome of a reload),
the status and hits files, and the return value, which only reads the active
snapshot's rule count.
-/

namespace ChaosLibs.Io.Refresh

open ChaosLibs.Common.CString
open ChaosLibs.Common.StatusText
open ChaosLibs.Common.Clock
open ChaosLibs.Io.ChangeStamp
open ChaosLibs.Io.Rule
open ChaosLibs.Io.ConfigParser

/-! ## Shared words -/

/-- What a published snapshot was made from. -/
inductive Loaded where
  | missing
  | rejected (error : ChaosStatusError)
  | accepted (rules : List ParsedRule)
deriving DecidableEq, Repr

/-- Whether `rule_count` is non-zero. -/
def Loaded.hasRules : Loaded → Bool
  | .accepted rules => !rules.isEmpty
  | _ => false

/-- What the parse of the bytes of a file gives. -/
def loadedOf (data : Bytes) : Loaded :=
  match chaosIoConfigLoad data with
  | .ok rules => .accepted rules
  | .error error => .rejected error

/-- `chaos_io_config_reject_file`: a whole-file rejection. -/
def chaosIoConfigRejectFile (reason : Reason) : Loaded :=
  .rejected (chaosStatusReject chaosStatusClear reason)

/-- A snapshot: what it holds, `links` and `resolved_ms`. -/
structure Snapshot where
  loaded : Loaded
  links : Bool
  resolvedMs : UInt64
deriving DecidableEq, Repr

/-- A cleared snapshot. -/
def Snapshot.empty : Snapshot :=
  ⟨.missing, false, 0⟩

/-- The words the threads share. -/
structure Cache where
  cached : UInt64
  provisional : Bool
  content : UInt64
  lastCheck : UInt64
  active : Snapshot
deriving DecidableEq, Repr

/-- After `chaos_io_config_init`. -/
def Cache.initial : Cache :=
  ⟨chaosIoMtimeUnknown, false, 0, 0, Snapshot.empty⟩

/-- `chaos_io_config_links_due`, the monotonic clock reading `now` ms. -/
def chaosIoConfigLinksDue (active : Snapshot) (now : UInt64) : Bool :=
  active.links && 1000 ≤ now - active.resolvedMs

/-! ## Answers -/

/-- What `open` of the rule file comes to. -/
inductive OpenAnswer where
  | opened
  | interrupted
  /-- `EACCES` or `EPERM`. -/
  | denied
  /-- Any other error, or the real functions not resolved. -/
  | failed
deriving DecidableEq, Repr

/-- What a `read` of the rule file comes to; no bytes are the end of the file. -/
inductive ReadAnswer where
  | bytes (chunk : Bytes)
  | interrupted
  | isDirectory
  | failed
deriving DecidableEq, Repr

/--
The answers a step gets from outside; each step looks at the one it asks for.
`moved` and `links` are the results of `realpath` on the rule prefixes: whether
any resolves differently than before, and whether any went through a link.
-/
structure Answers where
  monotonicNs : UInt64 := 0
  monotonicMs : UInt64 := 0
  realtimeMs : Int := 0
  stat : Option FileStat := none
  opened : OpenAnswer := .failed
  read : ReadAnswer := .failed
  fstat : Option FileStat := none
  moved : Bool := false
  links : Bool := false
deriving DecidableEq, Repr

/-! ## One thread -/

/-- Where a thread stands in `chaos_io_config_refresh`; `idle` between calls. -/
inductive RefreshPc where
  | idle
  | throttle
  | stat
  | loadStamp (observed : UInt64)
  | testProvisional (observed : UInt64)
  | testLinks (observed : UInt64)
  | claim (observed cached : UInt64)
  | clearProvisional (observed previous : UInt64)
  | forgetContent
  | openFile (observed previous : UInt64)
  | readFile (observed previous : UInt64) (data : Bytes)
  | statFile (observed previous : UInt64) (data : Bytes)
  | readClock (observed previous : UInt64) (data : Bytes) (stat : FileStat)
  | compare (observed previous : UInt64) (data : Bytes)
  | linksDue (observed previous : UInt64) (data : Bytes)
  | linksMoved (observed previous : UInt64) (data : Bytes)
  | linksKept (previous : UInt64)
  | resolve (observed content : UInt64) (loaded : Loaded)
  | storeContent (observed content : UInt64) (snapshot : Snapshot)
  | publish (observed : UInt64) (snapshot : Snapshot)
  | storeStamp (observed : UInt64)
  /-- The re-read found nothing new; the previous stamp is restored. -/
  | keep (previous : UInt64)
  /-- The read failed for now; the previous stamp is restored. -/
  | fail (previous : UInt64)
deriving DecidableEq, Repr

/-- The read loop of `chaos_io_config_read_file` after a chunk. -/
def readChunk (observed previous : UInt64) (data chunk : Bytes) : RefreshPc :=
  if chunk = [] then
    .statFile observed previous data
  else if chaosIoMaxConfigBytes ≤ (data ++ chunk).length then
    .resolve observed 0 (chaosIoConfigRejectFile .tooLarge)
  else
    .readFile observed previous (data ++ chunk)

/-- The next step of a thread; from `idle` it begins a call. -/
def advance (cache : Cache) (pc : RefreshPc) (answers : Answers) :
    Cache × RefreshPc :=
  match pc with
  | .idle =>
      if cache.cached = chaosIoMtimeUnknown ∨
          cache.cached = chaosIoMtimeReloading then
        (cache, .stat)
      else
        (cache, .throttle)
  | .throttle =>
      if chaosClockCheckedRecently cache.lastCheck answers.monotonicNs then
        (cache, .idle)
      else
        ({ cache with
            lastCheck := lastCheckAfter cache.lastCheck answers.monotonicNs },
          .stat)
  | .stat => (cache, .loadStamp (chaosIoConfigObservedMtime answers.stat))
  | .loadStamp observed =>
      if cache.cached = observed then
        (cache, .testProvisional observed)
      else
        (cache, .claim observed cache.cached)
  | .testProvisional observed =>
      if cache.provisional then
        (cache, .claim observed observed)
      else
        (cache, .testLinks observed)
  | .testLinks observed =>
      if chaosIoConfigLinksDue cache.active answers.monotonicMs then
        (cache, .claim observed observed)
      else
        (cache, .idle)
  | .claim observed cached =>
      if cached = chaosIoMtimeReloading then
        (cache, .idle)
      else if cache.cached = cached then
        ({ cache with cached := chaosIoMtimeReloading },
          .clearProvisional observed cached)
      else
        (cache, .idle)
  | .clearProvisional observed previous =>
      ({ cache with provisional := false },
        if observed = chaosIoMtimeMissing then .forgetContent
        else .openFile observed previous)
  | .forgetContent =>
      ({ cache with content := 0 }, .publish chaosIoMtimeMissing Snapshot.empty)
  | .openFile observed previous =>
      match answers.opened with
      | .opened => (cache, .readFile observed previous [])
      | .interrupted => (cache, .openFile observed previous)
      | .denied =>
          (cache, .resolve observed 0 (chaosIoConfigRejectFile .unreadable))
      | .failed => (cache, .fail previous)
  | .readFile observed previous data =>
      match answers.read with
      | .bytes chunk => (cache, readChunk observed previous data chunk)
      | .interrupted => (cache, .readFile observed previous data)
      | .isDirectory =>
          (cache, .resolve observed 0 (chaosIoConfigRejectFile .unreadable))
      | .failed => (cache, .fail previous)
  | .statFile observed previous data =>
      match answers.fstat with
      | none => (cache, .fail previous)
      | some stat =>
          if chaosIoConfigHashMtime stat ≠ observed then
            (cache, .fail previous)
          else
            (cache, .readClock observed previous data stat)
  | .readClock observed previous data stat =>
      ({ cache with
          provisional :=
            chaosClockStampIsRecent stat.sec stat.nsec answers.realtimeMs },
        .compare observed previous data)
  | .compare observed previous data =>
      if observed = previous ∧ chaosConfigContentHash data = cache.content then
        (cache, .linksDue observed previous data)
      else
        (cache, .resolve observed (chaosConfigContentHash data) (loadedOf data))
  | .linksDue observed previous data =>
      if chaosIoConfigLinksDue cache.active answers.monotonicMs then
        (cache, .linksMoved observed previous data)
      else
        (cache, .keep previous)
  | .linksMoved observed previous data =>
      if answers.moved then
        (cache, .resolve observed (chaosConfigContentHash data) (loadedOf data))
      else
        (cache, .linksKept previous)
  | .linksKept previous =>
      ({ cache with active.resolvedMs := answers.monotonicMs }, .keep previous)
  | .resolve observed content loaded =>
      (cache,
        .storeContent observed content
          ⟨loaded, loaded.hasRules && answers.links, answers.monotonicMs⟩)
  | .storeContent observed content snapshot =>
      ({ cache with content := content }, .publish observed snapshot)
  | .publish observed snapshot =>
      ({ cache with active := snapshot }, .storeStamp observed)
  | .storeStamp observed => ({ cache with cached := observed }, .idle)
  | .keep previous => ({ cache with cached := previous }, .idle)
  | .fail previous => ({ cache with cached := previous }, .idle)

/-! ## Single steps -/

/-- Only a publication changes what the active snapshot was made from. -/
theorem loaded_advance
    {cache : Cache} {pc : RefreshPc} {answers : Answers}
    (silent : ∀ observed snapshot, pc ≠ .publish observed snapshot) :
    (advance cache pc answers).1.active.loaded = cache.active.loaded := by
  cases pc with
  | publish observed snapshot => exact absurd rfl (silent observed snapshot)
  | idle => simp only [advance]; split <;> rfl
  | throttle => simp only [advance]; split <;> rfl
  | loadStamp observed => simp only [advance]; split <;> rfl
  | testProvisional observed => simp only [advance]; split <;> rfl
  | testLinks observed => simp only [advance]; split <;> rfl
  | claim observed cached =>
      simp only [advance]
      split
      · rfl
      · split <;> rfl
  | openFile observed previous => simp only [advance]; split <;> rfl
  | readFile observed previous data => simp only [advance]; split <;> rfl
  | statFile observed previous data =>
      simp only [advance]
      split
      · rfl
      · split <;> rfl
  | compare observed previous data => simp only [advance]; split <;> rfl
  | linksDue observed previous data => simp only [advance]; split <;> rfl
  | linksMoved observed previous data => simp only [advance]; split <;> rfl
  | _ => rfl

theorem advance_statFile
    {cache : Cache} {observed previous : UInt64} {data : Bytes}
    {answers : Answers} {stat : FileStat} (found : answers.fstat = some stat) :
    advance cache (.statFile observed previous data) answers =
      (cache,
        if chaosIoConfigHashMtime stat ≠ observed then .fail previous
        else .readClock observed previous data stat) := by
  simp only [advance, found]
  split <;> rfl

/-! ## Reading a file to its end -/

/-- The bytes a thread in the read loop has read so far. -/
def readSoFar : RefreshPc → Bytes
  | .readFile _ _ data => data
  | _ => []

/-- The bytes a chunk adds are the next ones of the file. -/
theorem prefix_readChunk
    {data content : Bytes} {size : Nat} (read : data <+: content) :
    data ++ (content.drop data.length).take (size + 1) <+: content := by
  rcases read with ⟨rest, rfl⟩
  simp only [List.drop_left, List.prefix_append_right_inj]
  exact List.take_prefix _ _

/-- An empty chunk means that the file ends here. -/
theorem length_le_of_readChunk_nil
    {data content : Bytes} {size : Nat}
    (ended : (content.drop data.length).take (size + 1) = []) :
    content.length ≤ data.length := by
  simpa using ended

/-- An empty chunk means that the whole file has been read. -/
theorem eq_of_readChunk_nil
    {data content : Bytes} {size : Nat} (read : data <+: content)
    (ended : (content.drop data.length).take (size + 1) = []) :
    data = content :=
  read.eq_of_length_le (length_le_of_readChunk_nil ended)

/-- A file that fills the buffer is rejected by its size. -/
theorem loadedOf_tooLarge
    {content : Bytes} (long : chaosIoMaxConfigBytes ≤ content.length) :
    loadedOf content = chaosIoConfigRejectFile .tooLarge := by
  simp [loadedOf, chaosIoConfigLoad, long, chaosIoConfigRejectFile]

end ChaosLibs.Io.Refresh

import ChaosLibs.Common.RuleFiring
import ChaosLibs.Dns.HostEntry
import ChaosLibs.Dns.Resolve
import ChaosLibs.Dns.SelectRule

/-!
# A host lookup into a buffer

`gethostbyname2_r` from the match of the rules to the entry: the rules fire on the slots
of the process, in the order of the source, and the answer is laid into the buffer of
the caller.
-/

namespace ChaosLibs.Dns.HostLookup

open ChaosLibs.Common.CString
open ChaosLibs.Common.HitSlots
open ChaosLibs.Common.RuleFiring
open ChaosLibs.Common.RulePolicy
open ChaosLibs.Common.RuleSelection
open ChaosLibs.Dns.AddressLists (AddrInfo Hints Libc freeaddrinfo readList)
open ChaosLibs.Dns.ConfigParser
open ChaosLibs.Dns.HostEntry
open ChaosLibs.Dns.Override (aiCanonname chaosDnsApplyOverride)
open ChaosLibs.Dns.ResultLists
open ChaosLibs.Dns.SelectRule (matchRank)
open ChaosLibs.Machine

/-! ## The rules -/

/-- `CHAOS_DNS_MAX_RULES`. -/
abbrev chaosDnsMaxRules : Nat := 256

/-- The hit slots of the library. -/
abbrev Slots := Pool chaosDnsMaxRules

/-- A rule of the snapshot: `chaos_dns_rule_t` with its qualifiers and its hit slot. -/
structure LoadedRule extends ChaosDnsRule where
  policy : ChaosRulePolicy := {}
  /-- `CHAOS_POLICY_NO_SIZE`, unless the rule says otherwise. -/
  callSize : Nat := 2 ^ 64 - 1
  hit : Option (SlotId chaosDnsMaxRules)
  hitGeneration : Nat

/-- What decides whether the rule fires. -/
def LoadedRule.gates (rule : LoadedRule) : Gates chaosDnsMaxRules where
  probability := rule.probability
  policy := rule.policy
  callSize := rule.callSize
  hit := rule.hit
  hitGeneration := rule.hitGeneration

/-- `chaos_dns_config_match`. -/
def chaosDnsConfigMatch (rules : List LoadedRule) (effect : ChaosDnsEffect)
    (name : Bytes) : Option LoadedRule :=
  selectRule (fun rule => matchRank effect .lookup name rule.toChaosDnsRule)
    (fun rule => rule.selector.selectorLen) rules

/-- The rules of the active snapshot, and what the caller asks for. -/
structure Lookup where
  rules : List LoadedRule
  name : Bytes
  family : Int

/-- The rule that may fire; the one of FILTER_FAMILY is skipped when it takes any. -/
def Lookup.candidate (lookup : Lookup) (effect : ChaosDnsEffect) : Option LoadedRule :=
  (chaosDnsConfigMatch lookup.rules effect lookup.name).filter fun rule =>
    effect ≠ .filterFamily ∨ rule.family ≠ .any

/-! ## A call -/

/-- `buffer` and `buffer_size`, and what lies in memory. -/
structure Buffer where
  start : Nat
  size : Nat
  memory : ByteMemory.Memory

/-- What `gethostbyname2_r` returns. -/
inductive HostentOutcome where
  /-- `ERANGE`, with no entry and `NETDB_INTERNAL`. -/
  | range
  /-- No entry: the return value, and `*h_errnop`. -/
  | failed (code : Nat) (hError : Int)
  /-- 0 and an entry, with the memory that it lies in. -/
  | found (entry : Hostent) (memory : ByteMemory.Memory)

/-- What a call meets outside the library. -/
structure Moment where
  /-- The guard is set, or the caller passes no place for the result. -/
  forwarded : Bool
  /-- The realtime clock and the draw where a rule of an effect is asked. -/
  now : ChaosDnsEffect → Int
  sample : ChaosDnsEffect → UInt32
  libc : Libc
  /-- Whether `calloc` gives the array of the shuffle, and its draws. -/
  room : Bool
  draws : Nat → UInt32
  /-- The real `gethostbyname2_r`. -/
  gethostbyname2R : (name : Bytes) → (family : Int) → Buffer → HostentOutcome

/-- What lasts from call to call: the slots, and the address lists in memory. -/
@[ext]
structure State where
  slots : Slots
  heap : AddressLists.Memory

section Call

variable (lookup : Lookup) (moment : Moment)

/--
`chaos_dns_config_match` and `chaos_dns_rule_should_trigger`: the rule that fires, and
the slots after that.
-/
def fire (effect : ChaosDnsEffect) (slots : Slots) : Option LoadedRule × Slots :=
  match lookup.candidate effect with
  | none => (none, slots)
  | some rule =>
      match ruleShouldTrigger rule.gates (moment.now effect) (moment.sample effect)
          slots with
      | none => (none, slots)
      | some after => (some rule, after)

/-- SHUFFLE and LIMIT. -/
def shuffleAndLimit (fuel : Nat) (state : State) (owned result : Option Nat) :
    Option (State × Except Int (Option Nat)) :=
  let (shuffle, shuffleSlots) := fire lookup moment .shuffle state.slots
  let (limit, slots) := fire lookup moment .limit shuffleSlots
  (match shuffle with
    | none => some (state.heap, result)
    | some _ =>
        chaosDnsShuffleResultList fuel moment.room moment.draws state.heap result).bind
    fun (shuffled, head) =>
      match limit with
      | none => some (⟨slots, shuffled⟩, .ok head)
      | some rule =>
          (chaosDnsLimitResultList fuel shuffled head rule.limit).bind
            fun (limited, left) =>
              (if left = none then Resolve.emptied limited owned
                else some (limited, .ok left)).map
                fun (after, outcome) => (⟨slots, after⟩, outcome)

/-- FILTER_FAMILY, SHUFFLE and LIMIT. -/
def shape (fuel : Nat) (state : State) (owned result : Option Nat) :
    Option (State × Except Int (Option Nat)) :=
  let (filter, slots) := fire lookup moment .filterFamily state.slots
  match filter with
  | none => shuffleAndLimit lookup moment fuel ⟨slots, state.heap⟩ owned result
  | some rule =>
      (chaosDnsFilterResultList fuel state.heap result rule.family).bind
        fun (filtered, head, left) =>
          if left then shuffleAndLimit lookup moment fuel ⟨slots, filtered⟩ owned head
          else
            (Resolve.emptied filtered owned).map fun (after, outcome) =>
              (⟨slots, after⟩, outcome)

/-- `chaos_dns_resolve_with_rules` with a place for the result. -/
def chaosDnsResolveWithRules (fuel : Nat) (state : State) (service : Option Bytes)
    (hints : Option Hints) : Option (State × Except Int (Option Nat)) :=
  let (rewrite, rewriteSlots) := fire lookup moment .rewrite state.slots
  let (served, serviceSlots) := fire lookup moment .service rewriteSlots
  let (override, slots) := fire lookup moment .override serviceSlots
  let node := rewrite.elim lookup.name fun rule => rule.text
  let effective := served.elim service fun rule => some rule.text
  match override with
  | some rule =>
      (chaosDnsApplyOverride moment.libc fuel state.heap rule.text lookup.name effective
        hints).bind fun (answered, outcome) =>
          match outcome with
          | .error code => some (⟨slots, answered⟩, .error code)
          | .ok first =>
              shape lookup moment fuel ⟨slots, answered⟩ (some first) (some first)
  | none =>
      match moment.libc.getaddrinfo state.heap (some node) effective hints with
      | .error code => some (⟨slots, state.heap⟩, .error code)
      | .ok nodes =>
          shape lookup moment fuel
            ⟨slots, { state.heap with nodes := link none nodes state.heap.nodes }⟩
            none (headAddress nodes none)

/-- The values of `h_errno`. -/
def hostNotFound : Int := 1
def tryAgain : Int := 2
def noRecovery : Int := 3
def noData : Int := 4

/-- `EAI_NODATA` and `EAI_ADDRFAMILY`. -/
def eaiNodata : Int := -5
def eaiAddrfamily : Int := -9

/-- `chaos_dns_h_errno_for`. -/
def chaosDnsHErrnoFor (eaiError : Int) : Int :=
  if eaiError = eaiNoname then hostNotFound
  else if eaiError = eaiAgain then tryAgain
  else if eaiError = eaiNodata ∨ eaiError = eaiAddrfamily then noData
  else noRecovery

/-- The hints of a host lookup: `SOCK_STREAM` and `AI_CANONNAME`. -/
def hostentHints (family : Int) : Hints where
  flags := aiCanonname
  family := family
  socktype := 1
  protocol := 0

/-- The return of a filled buffer. -/
def hostentOutcome : Except Nat (Hostent × ByteMemory.Memory) → HostentOutcome
  | .error code => if code = erange then .range else .failed 0 noData
  | .ok (entry, memory) => .found entry memory

/-- `chaos_dns_hostent_from_rules`. -/
def chaosDnsHostentFromRules (fuel : Nat) (state : State) (buffer : Buffer) :
    Option (State × HostentOutcome) :=
  (chaosDnsResolveWithRules lookup moment fuel state none
    (some (hostentHints lookup.family))).bind fun (resolved, outcome) =>
      match outcome with
      | .error code => some (resolved, .failed 0 (chaosDnsHErrnoFor code))
      | .ok head =>
          (readList fuel resolved.heap head).bind fun list =>
            let filled := chaosDnsFillHostent lookup.name lookup.family list
              buffer.start buffer.size buffer.memory
            (freeaddrinfo fuel resolved.heap head).map fun heap =>
              ({ resolved with heap := heap }, hostentOutcome filled)

/-- `chaos_dns_hostent_prelude` of the name: LATENCY, and the `h_errno` when GAI fires. -/
def chaosDnsHostentPrelude (slots : Slots) : Option Int × Slots :=
  let (_, latencySlots) := fire lookup moment .latency slots
  let (gai, after) := fire lookup moment .gai latencySlots
  (gai.map fun rule => chaosDnsHErrnoFor rule.gaiError, after)

/-- `chaos_dns_has_result_rule`. -/
def chaosDnsHasResultRule : Bool :=
  [ChaosDnsEffect.rewrite, .override, .filterFamily, .shuffle, .limit].any fun effect =>
    (chaosDnsConfigMatch lookup.rules effect lookup.name).isSome

end Call

/-- `gethostbyname2_r`, the wrapper; `none` where the fuel of a list ends. -/
def gethostbyname2R (lookup : Lookup) (fuel : Nat) (state : State) (moment : Moment)
    (buffer : Buffer) : Option (State × HostentOutcome) :=
  if moment.forwarded ∨ lookup.name = [] then
    some (state, moment.gethostbyname2R lookup.name lookup.family buffer)
  else
    match chaosDnsHostentPrelude lookup moment state.slots with
    | (some injected, slots) => some ({ state with slots := slots }, .failed 0 injected)
    | (none, slots) =>
        if chaosDnsHasResultRule lookup then
          chaosDnsHostentFromRules lookup moment fuel { state with slots := slots }
            buffer
        else
          some ({ state with slots := slots },
            moment.gethostbyname2R lookup.name lookup.family buffer)

end ChaosLibs.Dns.HostLookup

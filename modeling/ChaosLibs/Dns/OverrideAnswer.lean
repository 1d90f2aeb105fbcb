import ChaosLibs.Dns.EffectValues
import ChaosLibs.Dns.Override
import Mathlib.Algebra.Order.BigOperators.Group.List

/-!
# The literals of an accepted rule

Every rule that the parser accepts is valid for the validator's reading of its value.
The lookup's reading is the same when no literal is followed by a blank; otherwise it
asks the resolver for a text that is no literal, and fails.
-/

namespace ChaosLibs.Dns.OverrideAnswer

open ChaosLibs.Common.CString
open ChaosLibs.Dns.AddressLists
open ChaosLibs.Dns.ConfigParser
open ChaosLibs.Dns.EffectValues
open ChaosLibs.Dns.ListOwnership
open ChaosLibs.Dns.Override
open ChaosLibs.Dns.OverrideTokens
open ChaosLibs.Machine

/-! ## What is accepted -/

/-- An OVERRIDE rule has the payload that the validator has seen. -/
theorem valid_of_parseEffect
    {selector : ChaosDnsSelector} {effect value : Bytes} {rule : ChaosDnsRule}
    (parsed : parseEffect selector effect value = some rule)
    (overrides : rule.effect = .override) :
    ∃ payload, chaosDnsValidateOverrideValue payload = true ∧
      chaosDnsCopyTextValue payload chaosDnsMaxValue = some rule.text := by
  cases denotes_of_parseEffect parsed with
  | override parts literals => exact ⟨_, literals, copy_of_payload parts⟩
  | _ => cases overrides

/-- The text of a rule that the parser accepts is a list of valid literals. -/
theorem valid_of_chaosDnsConfigParseLine
    {inetNtop : InetNtop} {line : Bytes} {rule : ChaosDnsRule}
    (parsed : chaosDnsConfigParseLine inetNtop line = .rule rule)
    (overrides : rule.effect = .override) :
    rule.text.length < chaosDnsMaxValue ∧ commaTokens rule.text ≠ [] ∧
      ∀ token ∈ commaTokens rule.text,
        chaosDnsOverrideTokenValid (chaosDnsTrim token) = true := by
  have effectParsed : ∃ selector effect value,
      parseEffect selector effect value = some rule := by
    dsimp only [chaosDnsConfigParseLine] at parsed
    split at parsed
    · cases parsed
    · split at parsed
      · cases parsed
      · split at parsed
        · cases parsed
        · split at parsed
          · cases parsed
          · split at parsed
            · cases parsed
            · rename_i accepted
              cases parsed
              exact ⟨_, _, _, accepted⟩
  rcases effectParsed with ⟨selector, effect, value, accepted⟩
  rcases valid_of_parseEffect accepted overrides with ⟨payload, valid, copied⟩
  rcases chaosDnsCopyTextValue_eq_some copied with ⟨same, -, short⟩
  rw [same]
  dsimp only [chaosDnsValidateOverrideValue] at valid
  split at valid
  · cases valid
  · rename_i buffer copiedAgain
    rcases chaosDnsCopyTextValue_eq_some copiedAgain with ⟨rfl, -, -⟩
    rcases (Bool.and_eq_true _ _).mp valid with ⟨found, all⟩
    refine ⟨short, ?_, List.all_eq_true.mp all⟩
    intro empty
    rw [empty] at found
    cases found

/-! ## What the resolver accepts -/

/-- From some address on, nothing is allocated. -/
def FiniteMemory (memory : Memory) : Prop :=
  ∃ top, ∀ address, top ≤ address → memory.nodes address = none

/--
The resolver accepts the service and the hints: under `AI_NUMERICHOST` it answers the
literals that `inet_pton` accepts and the hints permit, and nothing else.
-/
structure Accepts (libc : Libc) (service : Option Bytes) (hints : Option Hints)
    (answers : Bytes → List AddrInfo) : Prop where
  literal : ∀ memory host, FiniteMemory memory → chaosDnsLiteralFamily host ≠ 0 →
    ¬ Excludes (numericHints hints) host →
      ∃ nodes, libc.getaddrinfo memory (some host) service
          (some (numericHints hints)) = .ok nodes ∧
        nodes.map Prod.snd = answers host ∧ nodes ≠ []
  other : ∀ memory host, chaosDnsLiteralFamily host = 0 →
    libc.getaddrinfo memory (some host) service (some (numericHints hints)) =
      .error eaiNoname

/-- The literals of a rule whose family the hints permit, in the rule's order. -/
def permitted (hints : Option Hints) (text : Bytes) : List Bytes :=
  (overrideLiterals text).filter fun host =>
    decide (¬ Excludes (numericHints hints) host)

/-- The canonical name of an answer. -/
def answerName (hints : Option Hints) (name : Bytes) : Option Bytes :=
  if (numericHints hints).flags &&& aiCanonname ≠ 0 then some name else none

/-- The block table is full, or there is no memory for a block of these nodes. -/
def Exhausted (libc : Libc) (memory : Memory) (text name : Bytes)
    (service : Option Bytes) (hints : Option Hints) (infos : List AddrInfo) : Prop :=
  libc.malloc
      (gather libc service (numericHints hints) (commaTokens text) memory []).memory
      infos.length
      ((answerName hints name).elim 0 fun name => name.length + 1) = none ∨
    ∀ index, memory.owned index ≠ none

/--
A lookup of the name is answered with exactly the literals of the rule that the hints
permit.
-/
def AnswersLiterals (libc : Libc) (memory : Memory) (text name : Bytes)
    (service : Option Bytes) (hints : Option Hints)
    (answers : Bytes → List AddrInfo) : Prop :=
  ∃ enough, ∀ fuel, enough ≤ fuel → ∃ after outcome,
    chaosDnsApplyOverride libc fuel memory text name service hints =
        some (after, outcome) ∧
      if permitted hints text = [] then outcome = .error eaiNoname
      else
        (∃ head held nodes, outcome = .ok head ∧
          Owning memory after (some held) (some head) (answerName hints name) nodes ∧
          nodes.map Prod.snd =
            ((permitted hints text).map answers).flatten.map ownedInfo) ∨
        (outcome = .error eaiMemory ∧
          Exhausted libc memory text name service hints
            ((permitted hints text).map answers).flatten)

variable {libc : Libc} {base memory : Memory} {lists : List (List (Nat × AddrInfo))}
  {nodes : List (Nat × AddrInfo)} {service : Option Bytes} {hints : Option Hints}
  {answers : Bytes → List AddrInfo} {tokens : List Bytes}

theorem finiteMemory_link (finite : FiniteMemory memory) :
    FiniteMemory { memory with nodes := link none nodes memory.nodes } := by
  rcases finite with ⟨top, free⟩
  refine ⟨top + (addresses nodes).sum + 1, fun address above => ?_⟩
  refine (link_of_not_mem _ _ fun member => ?_).trans (free address (by omega))
  have bounded : address ≤ (addresses nodes).sum :=
    List.le_sum_of_mem member
  omega

/-! ## The loop over the tokens -/

/-- Without a blank after a literal, the loop asks for the permitted literals. -/
theorem gather_unpadded
    (accepts : Accepts libc service hints answers)
    (valid : ∀ token ∈ tokens,
      chaosDnsOverrideTokenValid (chaosDnsTrim token) = true)
    (unpadded : ∀ token ∈ tokens, ∀ ch ∈ token.getLast?,
      chaosDnsIsBlankChar ch = false)
    (finite : FiniteMemory memory) (ok : Partials base memory lists)
    (few : lists.length + tokens.length ≤ chaosDnsMaxOverride) :
    ∃ more,
      (gather libc service (numericHints hints) tokens memory
          (lists.map (headAddress · none))).error = none ∧
        (gather libc service (numericHints hints) tokens memory
          (lists.map (headAddress · none))).partials =
            more.map (headAddress · none) ∧
        Partials base
          (gather libc service (numericHints hints) tokens memory
            (lists.map (headAddress · none))).memory more ∧
        more.map (List.map Prod.snd) =
          lists.map (List.map Prod.snd) ++
            ((tokens.map literal).filter fun host =>
              decide (¬ Excludes (numericHints hints) host)).map answers := by
  induction tokens generalizing memory lists with
  | nil => exact ⟨lists, rfl, rfl, ok, (List.append_nil _).symm⟩
  | cons token rest induction =>
      have validToken := valid token List.mem_cons_self
      have host := lookupHost_of_unpadded validToken
        (unpadded token List.mem_cons_self)
      have isLiteral : chaosDnsLiteralFamily (literal token) ≠ 0 :=
        (of_tokenValid validToken).2.2
      rw [List.length_cons] at few
      have room : (lists.map (headAddress · none)).length ≠ chaosDnsMaxOverride := by
        rw [List.length_map]
        omega
      have validRest : ∀ other ∈ rest,
          chaosDnsOverrideTokenValid (chaosDnsTrim other) = true :=
        fun other member => valid other (List.mem_cons_of_mem _ member)
      have unpaddedRest : ∀ other ∈ rest, ∀ ch ∈ other.getLast?,
          chaosDnsIsBlankChar ch = false :=
        fun other member => unpadded other (List.mem_cons_of_mem _ member)
      dsimp only [gather]
      rw [host]
      dsimp only
      rw [if_neg room]
      by_cases excluded : Excludes (numericHints hints) (literal token)
      · rw [if_pos excluded, List.map_cons,
          List.filter_cons_of_neg (by simpa using excluded)]
        exact induction validRest unpaddedRest finite ok (by omega)
      · rcases accepts.literal memory (literal token) finite isLiteral excluded with
          ⟨nodes, answered, infos, -⟩
        have later := induction validRest unpaddedRest
          (finiteMemory_link finite) (ok.answer answered) (by
            rw [List.length_append, List.length_singleton]
            omega)
        rw [if_neg excluded, answered, List.map_cons,
          List.filter_cons_of_pos (by simpa using excluded), List.map_cons]
        rw [List.map_append, List.map_append, List.map_singleton, List.map_singleton,
          infos, List.append_assoc] at later
        exact later

/-- A blank after a literal makes the loop fail. -/
theorem gather_padded
    (accepts : Accepts libc service hints answers)
    (valid : ∀ token ∈ tokens,
      chaosDnsOverrideTokenValid (chaosDnsTrim token) = true)
    (padded : ∃ token ∈ tokens, ∃ ch ∈ token.getLast?,
      chaosDnsIsBlankChar ch = true)
    (finite : FiniteMemory memory) {partials : List (Option Nat)}
    (few : partials.length + tokens.length ≤ chaosDnsMaxOverride) :
    ∃ code, (gather libc service (numericHints hints) tokens memory partials).error =
      some code ∧ (code = eaiFail ∨ code = eaiNoname) := by
  induction tokens generalizing memory partials with
  | nil =>
      rcases padded with ⟨token, member, -⟩
      cases member
  | cons token rest induction =>
      rw [List.length_cons] at few
      have room : partials.length ≠ chaosDnsMaxOverride := by omega
      have validRest : ∀ other ∈ rest,
          chaosDnsOverrideTokenValid (chaosDnsTrim other) = true :=
        fun other member => valid other (List.mem_cons_of_mem _ member)
      by_cases here : ∃ ch ∈ token.getLast?, chaosDnsIsBlankChar ch = true
      · rcases here with ⟨ch, last, blank⟩
        dsimp only [gather]
        cases read : lookupHost token with
        | none => exact ⟨eaiFail, rfl, Or.inl rfl⟩
        | some host =>
            have noLiteral := lookupHost_of_padded last blank read
            have notExcluded : ¬ Excludes (numericHints hints) host :=
              fun excluded => excluded.2.1 noLiteral
            dsimp only
            rw [if_neg room, if_neg notExcluded,
              accepts.other memory host noLiteral]
            exact ⟨eaiNoname, rfl, Or.inr rfl⟩
      · have unpadded : ∀ ch ∈ token.getLast?, chaosDnsIsBlankChar ch = false :=
          fun ch last => Bool.eq_false_iff.mpr fun blank => here ⟨ch, last, blank⟩
        have paddedRest : ∃ other ∈ rest, ∃ ch ∈ other.getLast?,
            chaosDnsIsBlankChar ch = true := by
          rcases padded with ⟨other, member, last⟩
          rcases List.mem_cons.mp member with rfl | inRest
          · exact absurd last here
          · exact ⟨other, inRest, last⟩
        have validToken := valid token List.mem_cons_self
        have host := lookupHost_of_unpadded validToken unpadded
        dsimp only [gather]
        rw [host]
        dsimp only
        rw [if_neg room]
        by_cases excluded : Excludes (numericHints hints) (literal token)
        · rw [if_pos excluded]
          exact induction validRest paddedRest finite (by omega)
        · rcases accepts.literal memory (literal token) finite
              (of_tokenValid validToken).2.2 excluded with ⟨nodes, answered, -, -⟩
          rw [if_neg excluded, answered]
          refine induction validRest paddedRest (finiteMemory_link finite) ?_
          rw [List.length_append, List.length_singleton]
          omega

/-! ## The lookup -/

/-- Every lookup that the resolver accepts is answered with the literals. -/
def AlwaysAnswers (libc : Libc) (text : Bytes) : Prop :=
  ∀ memory name service hints answers, Coherent memory → FiniteMemory memory →
    Accepts libc service hints answers →
      AnswersLiterals libc memory text name service hints answers

/-- Every lookup that the resolver accepts fails, and not for want of memory. -/
def AlwaysFails (libc : Libc) (text : Bytes) : Prop :=
  ∀ memory name service hints answers, Coherent memory → FiniteMemory memory →
    Accepts libc service hints answers →
      ∃ code, code ≠ eaiMemory ∧ ∃ enough, ∀ fuel, enough ≤ fuel →
        chaosDnsApplyOverride libc fuel memory text name service hints =
          some (memory, .error code)

/-- The resolver has a node for each literal that the hints permit. -/
theorem answers_ne_nil
    (accepts : Accepts libc service hints answers) {text : Bytes}
    (valid : ∀ token ∈ commaTokens text,
      chaosDnsOverrideTokenValid (chaosDnsTrim token) = true)
    (finite : FiniteMemory memory) (nonempty : permitted hints text ≠ []) :
    ((permitted hints text).map answers).flatten ≠ [] := by
  rcases List.exists_mem_of_ne_nil _ nonempty with ⟨host, member⟩
  rcases List.mem_filter.mp member with ⟨listed, included⟩
  rcases List.mem_map.mp listed with ⟨token, inText, rfl⟩
  rcases accepts.literal memory (literal token) finite
      (of_tokenValid (valid token inText)).2.2 (of_decide_eq_true included) with
    ⟨nodes, -, infos, notEmpty⟩
  intro empty
  have nothing := List.flatten_eq_nil_iff.mp empty _ (List.mem_map_of_mem member)
  exact notEmpty (List.map_eq_nil_iff.mp (infos.trans nothing))

/-- Without a blank after a literal, a lookup is answered with the literals. -/
theorem answersLiterals_of_unpadded
    (accepts : Accepts libc service hints answers) {text : Bytes} (name : Bytes)
    (short : text.length < chaosDnsMaxValue)
    (valid : ∀ token ∈ commaTokens text,
      chaosDnsOverrideTokenValid (chaosDnsTrim token) = true)
    (unpadded : Unpadded text)
    (few : (overrideLiterals text).length ≤ chaosDnsMaxOverride)
    (coherent : Coherent memory) (finite : FiniteMemory memory) :
    AnswersLiterals libc memory text name service hints answers := by
  have fewTokens : (commaTokens text).length ≤ chaosDnsMaxOverride := by
    rwa [overrideLiterals, List.length_map] at few
  rcases gather_unpadded accepts valid unpadded finite (partials_nil memory)
      ((Nat.zero_add _).trans_le fewTokens) with ⟨more, noError, heads, ok, read⟩
  change more.map (List.map Prod.snd) = (permitted hints text).map answers at read
  rw [List.map_nil] at noError heads ok
  have infos : more.flatten.map Prod.snd =
      ((permitted hints text).map answers).flatten := by
    rw [List.map_flatten, read]
  refine ⟨more.flatten.length, fun fuel enough => ?_⟩
  dsimp only [chaosDnsApplyOverride]
  rw [if_neg (Nat.not_le.mpr short), noError, heads]
  dsimp only
  by_cases nothing : permitted hints text = []
  · rw [nothing, List.map_nil] at read
    have empty : more = [] := List.map_eq_nil_iff.mp read
    rw [empty, List.map_nil, if_pos rfl]
    exact ⟨_, _, rfl, by rw [if_pos nothing]⟩
  · have notEmpty : more.map (headAddress · none) ≠ [] := by
      intro empty
      rw [List.map_eq_nil_iff.mp empty, List.map_nil] at read
      exact nothing (List.map_eq_nil_iff.mp read.symm)
    rw [if_neg notEmpty]
    rcases @chaosDnsOwnedCopy_partials libc memory _ more fuel ok coherent enough
        (answerName hints name) with
      ⟨copies, noRoom⟩ | ⟨copied, first, own, held, copies, coherentOwn, partials,
        owning⟩
    · refine ⟨memory, .error eaiMemory, ?_, ?_⟩
      · change (chaosDnsOwnedCopy _ _ _ _ (answerName hints name)).bind _ = _
        rw [copies, Option.bind_some, ok.freeAll coherent enough]
        rfl
      · rw [if_neg nothing]
        refine Or.inr ⟨rfl, ?_⟩
        rw [NoRoom, infos] at noRoom
        rcases noRoom with empty | noMemory | full
        · exact absurd empty (answers_ne_nil accepts valid finite nothing)
        · exact Or.inl noMemory
        · rw [ok.owned] at full
          exact Or.inr full
    · refine ⟨own, .ok first, ?_, ?_⟩
      · change (chaosDnsOwnedCopy _ _ _ _ (answerName hints name)).bind _ = _
        rw [copies, Option.bind_some, partials.freeAll coherentOwn enough]
        rfl
      · rw [if_neg nothing]
        refine Or.inl ⟨first, held, _, rfl, owning, ?_⟩
        rw [map_snd_copiedNodes, infos]

/-- With a blank after a literal, every lookup fails. -/
theorem chaosDnsApplyOverride_padded
    (accepts : Accepts libc service hints answers) {text : Bytes} (name : Bytes)
    (short : text.length < chaosDnsMaxValue)
    (valid : ∀ token ∈ commaTokens text,
      chaosDnsOverrideTokenValid (chaosDnsTrim token) = true)
    (padded : ¬ Unpadded text)
    (few : (overrideLiterals text).length ≤ chaosDnsMaxOverride)
    (coherent : Coherent memory) (finite : FiniteMemory memory) :
    ∃ code, (code = eaiFail ∨ code = eaiNoname) ∧ ∃ enough, ∀ fuel, enough ≤ fuel →
      chaosDnsApplyOverride libc fuel memory text name service hints =
        some (memory, .error code) := by
  have fewTokens : (commaTokens text).length ≤ chaosDnsMaxOverride := by
    rwa [overrideLiterals, List.length_map] at few
  have somePadded : ∃ token ∈ commaTokens text, ∃ ch ∈ token.getLast?,
      chaosDnsIsBlankChar ch = true := by
    simpa only [Unpadded, not_forall, exists_prop, Bool.not_eq_false] using padded
  have room : ([] : List (Option Nat)).length + (commaTokens text).length ≤
      chaosDnsMaxOverride := by
    rwa [List.length_nil, Nat.zero_add]
  rcases gather_padded accepts valid somePadded finite room with ⟨code, failed, which⟩
  rcases @gather_partials libc memory memory [] service (numericHints hints)
      (partials_nil memory) (commaTokens text) with ⟨lists, heads, ok⟩
  rw [List.map_nil] at heads ok
  refine ⟨code, which, lists.flatten.length, fun fuel enough => ?_⟩
  dsimp only [chaosDnsApplyOverride]
  rw [if_neg (Nat.not_le.mpr short), failed, heads]
  dsimp only
  rw [ok.freeAll coherent enough]
  rfl

/-- Without hints, every literal is permitted. -/
theorem permitted_none (text : Bytes) : permitted none text = overrideLiterals text :=
  List.filter_eq_self.mpr fun _ _ => decide_eq_true fun excluded => excluded.1 rfl

/-- The memory before anything is allocated. -/
def emptyMemory : Memory := ⟨fun _ => none, fun _ => none⟩

theorem coherent_emptyMemory : Coherent emptyMemory :=
  fun _ _ entry => by cases entry

theorem finiteMemory_emptyMemory : FiniteMemory emptyMemory :=
  ⟨0, fun _ _ => rfl⟩

/-- A lookup without hints is answered, or fails for want of memory. -/
theorem AnswersLiterals.error_eq
    {text name : Bytes} {after : Memory} {code : Int}
    (answered : AnswersLiterals libc memory text name service none answers)
    (nonempty : commaTokens text ≠ [])
    (fails : ∃ enough, ∀ fuel, enough ≤ fuel →
      chaosDnsApplyOverride libc fuel memory text name service none =
        some (after, .error code)) :
    code = eaiMemory := by
  rcases answered with ⟨least, answered⟩
  rcases fails with ⟨enough, fails⟩
  rcases answered (max enough least) (le_max_right _ _) with
    ⟨answer, outcome, returns, shape⟩
  rw [fails (max enough least) (le_max_left _ _)] at returns
  cases returns
  have literals : permitted none text ≠ [] := by
    rw [permitted_none]
    exact fun empty => nonempty (List.map_eq_nil_iff.mp empty)
  rw [if_neg literals] at shape
  rcases shape with ⟨head, held, nodes, answers, -⟩ | ⟨exhausted, -⟩
  · cases answers
  · cases exhausted
    rfl

/-- With a blank after a literal, every lookup fails, and not for want of memory. -/
theorem alwaysFails_of_padded
    {text : Bytes} (libc : Libc) (short : text.length < chaosDnsMaxValue)
    (valid : ∀ token ∈ commaTokens text,
      chaosDnsOverrideTokenValid (chaosDnsTrim token) = true)
    (padded : ¬ Unpadded text)
    (few : (overrideLiterals text).length ≤ chaosDnsMaxOverride) :
    AlwaysFails libc text := by
  intro memory name service hints answers coherent finite accepts
  rcases chaosDnsApplyOverride_padded accepts name short valid padded few coherent
      finite with ⟨code, which, fails⟩
  refine ⟨code, ?_, fails⟩
  rcases which with rfl | rfl
  · decide
  · decide

theorem AlwaysAnswers.not_alwaysFails
    {text : Bytes} (answered : AlwaysAnswers libc text)
    (nonempty : commaTokens text ≠ []) (accepts : Accepts libc none none answers) :
    ¬ AlwaysFails libc text := by
  intro alwaysFails
  rcases alwaysFails emptyMemory [] none none answers coherent_emptyMemory
      finiteMemory_emptyMemory accepts with ⟨code, other, fails⟩
  exact other ((answered emptyMemory [] none none answers coherent_emptyMemory
    finiteMemory_emptyMemory accepts).error_eq nonempty ⟨_, fails.choose_spec⟩)

/-! ## A resolver of literals -/

/-- The node of a literal. -/
def numericNode (host : Bytes) : AddrInfo :=
  ⟨0, chaosDnsLiteralFamily host, 1, 6, some host, none⟩

open Classical in
/-- The node of a literal at the first address from which everything is free. -/
noncomputable def numericAnswer (memory : Memory) (host : Bytes) :
    Except Int (List (Nat × AddrInfo)) :=
  if finite : FiniteMemory memory then
    .ok [(finite.choose, numericNode host)]
  else .error eaiMemory

open Classical in
/-- A resolver of literals, and a `malloc` that takes what is free. -/
noncomputable def numericLibc : Libc where
  getaddrinfo memory node _ _ :=
    match node with
    | none => .error eaiNoname
    | some host =>
        if chaosDnsLiteralFamily host = 0 then .error eaiNoname
        else numericAnswer memory host
  malloc memory _ _ := if finite : FiniteMemory memory then some finite.choose else none
  answer_fresh := by
    intro memory node service hints nodes answered
    dsimp only [numericAnswer] at answered
    split at answered
    · cases answered
    · split at answered
      · cases answered
      · split at answered
        · rename_i finite
          cases answered
          refine ⟨List.nodup_singleton _, fun address member => ?_⟩
          cases List.mem_singleton.mp member
          exact finite.choose_spec _ (Nat.le_refl _)
        · cases answered
  answer_named := by
    intro memory node service hints nodes answered
    dsimp only [numericAnswer] at answered
    split at answered
    · cases answered
    · split at answered
      · cases answered
      · split at answered
        · cases answered
          exact nofun
        · cases answered
  malloc_fresh := by
    intro memory count nameSize first allocated address above below
    split at allocated
    · rename_i finite
      cases allocated
      exact finite.choose_spec _ above
    · cases allocated

theorem accepts_numericLibc (service : Option Bytes) (hints : Option Hints) :
    Accepts numericLibc service hints fun host => [numericNode host] where
  literal memory host finite isLiteral _ := by
    refine ⟨[(finite.choose, numericNode host)], ?_, rfl, List.cons_ne_nil _ _⟩
    dsimp only [numericLibc, numericAnswer]
    rw [if_neg isLiteral, dif_pos finite]
  other memory host noLiteral := if_pos noLiteral

/-! ## The rules that are answered -/

/--
The lookups of an accepted rule are answered with the rule's literals, and do not all
fail, exactly when no literal is followed by a blank.
-/
theorem alwaysAnswers_iff_unpadded
    {inetNtop : InetNtop} {line : Bytes} {rule : ChaosDnsRule}
    (parsed : chaosDnsConfigParseLine inetNtop line = .rule rule)
    (overrides : rule.effect = .override)
    (few : (overrideLiterals rule.text).length ≤ chaosDnsMaxOverride)
    (accepts : Accepts libc none none answers) :
    (AlwaysAnswers libc rule.text ∧ ¬ AlwaysFails libc rule.text) ↔
      Unpadded rule.text := by
  rcases valid_of_chaosDnsConfigParseLine parsed overrides with
    ⟨short, nonempty, valid⟩
  constructor
  · rintro ⟨-, notAll⟩
    by_contra padded
    exact notAll (alwaysFails_of_padded libc short valid padded few)
  · intro unpadded
    have answered : AlwaysAnswers libc rule.text :=
      fun memory name service hints answers coherent finite accepts =>
        answersLiterals_of_unpadded accepts name short valid unpadded few coherent
          finite
    exact ⟨answered, answered.not_alwaysFails nonempty accepts⟩

/-- No `inet_ntop`: the selectors below have names. -/
def noInetNtop : InetNtop := ⟨id, id⟩

/-- A rule for `db`, as the parser returns it. -/
def dbOverride (text : Bytes) : ChaosDnsRule :=
  { selector := ⟨.exact, .lookup, 8, bytes "db"⟩, effect := .override,
    probability := ⟨1, 1⟩, text }

theorem alwaysAnswers_iff_unpadded_db :
    (AlwaysAnswers numericLibc (bytes "10.0.0.1, 10.0.0.2") ∧
        ¬ AlwaysFails numericLibc (bytes "10.0.0.1, 10.0.0.2")) ↔
      Unpadded (bytes "10.0.0.1, 10.0.0.2") :=
  @alwaysAnswers_iff_unpadded numericLibc _ noInetNtop
    (bytes "dns://db:OVERRIDE:10.0.0.1, 10.0.0.2")
    (dbOverride (bytes "10.0.0.1, 10.0.0.2")) (by decide +kernel) rfl
    (by decide +kernel) (accepts_numericLibc none none)

/-- A rule that the parser accepts, and whose lookups all fail. -/
theorem paddedLiteral_alwaysFails :
    chaosDnsConfigParseLine noInetNtop
          (bytes "dns://db:OVERRIDE:10.0.0.1 ,10.0.0.2") =
        .rule (dbOverride (bytes "10.0.0.1 ,10.0.0.2")) ∧
      (overrideLiterals (bytes "10.0.0.1 ,10.0.0.2")).length ≤ chaosDnsMaxOverride ∧
      (∀ service hints, ∃ answers, Accepts numericLibc service hints answers) ∧
      AlwaysFails numericLibc (bytes "10.0.0.1 ,10.0.0.2") ∧
      ¬ AlwaysAnswers numericLibc (bytes "10.0.0.1 ,10.0.0.2") := by
  have few : (overrideLiterals (bytes "10.0.0.1 ,10.0.0.2")).length ≤
      chaosDnsMaxOverride := by decide +kernel
  have padded : ¬ Unpadded (bytes "10.0.0.1 ,10.0.0.2") := by
    intro unpadded
    have blank := unpadded (bytes "10.0.0.1 ") (by decide +kernel) (byte ' ')
      (by decide +kernel)
    revert blank
    decide
  have fails : AlwaysFails numericLibc (bytes "10.0.0.1 ,10.0.0.2") :=
    alwaysFails_of_padded numericLibc (by decide +kernel) (by decide +kernel) padded few
  refine ⟨by decide +kernel, few,
    fun service hints => ⟨_, accepts_numericLibc service hints⟩, fails,
    fun answered => ?_⟩
  exact answered.not_alwaysFails (by decide +kernel) (accepts_numericLibc none none) fails

end ChaosLibs.Dns.OverrideAnswer

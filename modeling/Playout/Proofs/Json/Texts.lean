/-
**The texts of a JSON value.**

A text of a value is what its tokens are written as, one after the other, with any blanks between
them, where every literal follows the grammar. Each text of a value is read as the value: no two
numerals of a value touch, so that a numeral always ends where its text does. And what is read as a
value is one of its texts: the machine loses nothing, since each state stands for exactly the tokens
that lead to it.

* `Laid`, `Value.IsText`: the texts;
* `Value.chain_tokens`: no two numerals of a value touch;
* `State.taken_of_step?`, `State.taken_of_run?`: what a state has taken, over a step and over a run;
* `Value.read?_eq_some_iff`: **a text is read as a value just if it is one of its texts**.
-/
import Mathlib.Data.List.Chain
import Playout.Proofs.Json.Grammar

namespace Playout.Json

/-! ### Tokens in a text -/

/-- A text in which tokens stand one after the other, with blanks anywhere between them. -/
inductive Laid : List Token → List Char → Prop
  | nil : Laid [] []
  | blank {c : Char} {tokens : List Token} {text : List Char} (blank : isBlank c = true)
      (rest : Laid tokens text) : Laid tokens (c :: text)
  | token {token : Token} {tokens : List Token} {text : List Char} (rest : Laid tokens text) :
      Laid (token :: tokens) (token.text ++ text)

/-- Two tokens that may touch: they are not both numerals. -/
def Token.Apart : Token → Token → Prop
  | .number _, .number _ => False
  | _, _ => True

namespace Laid

variable {tokens : List Token} {text : List Char}

/-- A token ends where a text goes on with a token that may touch it. -/
theorem endsAt (laid : Laid tokens text) {token : Token}
    (apart : ∀ next ∈ tokens.head?, token.Apart next) : token.EndsAt text := by
  cases token
  case number literal =>
    cases laid with
    | nil => exact endsNumeral_nil
    | blank blank _ =>
      simp only [isBlank, Bool.or_eq_true, decide_eq_true_eq] at blank
      rcases blank with ((rfl | rfl) | rfl) | rfl <;> exact endsNumeral_cons (by decide)
    | @token next _ _ _ =>
      have other := apart next rfl
      cases next
      case number => exact other.elim
      case boolean value => cases value <;> exact endsNumeral_cons (by decide)
      all_goals exact endsNumeral_cons (by decide)
  all_goals trivial

/-- A text spells the tokens that stand in it, if they follow the grammar and no two numerals
touch. -/
theorem spells (laid : Laid tokens text) (formed : ∀ token ∈ tokens, token.Formed)
    (chain : tokens.IsChain Token.Apart) : Spells tokens text := by
  induction laid with
  | nil => exact .nil
  | blank blank _ ih => exact .blank blank (ih formed chain)
  | @token token tokens text rest ih =>
    obtain ⟨here, behind⟩ := List.forall_mem_cons.1 formed
    obtain ⟨apart, further⟩ := List.isChain_cons.1 chain
    exact .token (token.readable_iff.2 here) (rest.endsAt apart) (ih behind further)

end Laid

/-- Tokens stand in their texts without blanks. -/
theorem laid_flatMap (tokens : List Token) : Laid tokens (tokens.flatMap Token.text) := by
  induction tokens with
  | nil => exact .nil
  | cons token tokens ih => exact .token ih

/-- The tokens of a text stand in it, and each follows the grammar. -/
theorem laid_of_tokens? {text : List Char} {tokens : List Token}
    (found : tokens? text = some tokens) :
    Laid tokens text ∧ ∀ token ∈ tokens, token.Formed := by
  fun_induction tokens? text generalizing tokens with
  | case1 =>
    cases found
    exact ⟨.nil, fun _ member => by cases member⟩
  | case2 c rest blank ih =>
    obtain ⟨laid, formed⟩ := ih found
    exact ⟨.blank blank laid, formed⟩
  | case3 => cases found
  | case4 c rest dark token after split shorter ih =>
    obtain ⟨further, read, rfl⟩ := Option.map_eq_some_iff.1 found
    obtain ⟨laid, formed⟩ := ih read
    have whole := (append_of_splitToken? split).1
    rw [← whole]
    exact ⟨.token laid, List.forall_mem_cons.2 ⟨formed_of_splitToken? split, formed⟩⟩

/-! ### The tokens of a value do not touch -/

namespace Value

/-- Any token may touch what goes on with an array. -/
theorem apart_elementTokens (token : Token) (elements : List Value) :
    ∀ next ∈ (elementTokens elements).head?, token.Apart next := by
  intro next member
  cases elements <;> cases member <;> cases token <;> trivial

/-- Any token may touch what goes on with an object. -/
theorem apart_memberTokens (token : Token) (members : List (List Char × Value)) :
    ∀ next ∈ (memberTokens members).head?, token.Apart next := by
  intro next member
  rcases members with _ | ⟨⟨key, value⟩, members⟩ <;> cases member <;> cases token <;> trivial

/-- A token that may touch any other goes in front of a chain. -/
theorem chain_cons {token : Token} {tokens : List Token}
    (other : ∀ next, token.Apart next) (chain : tokens.IsChain Token.Apart) :
    (token :: tokens).IsChain Token.Apart :=
  List.isChain_cons.2 ⟨fun next _ => other next, chain⟩

mutual

/-- **No two numerals of a value touch.** -/
theorem chain_tokens : ∀ value : Value, value.tokens.IsChain Token.Apart
  | .null => .singleton _
  | .boolean _ => .singleton _
  | .number _ => .singleton _
  | .string _ => .singleton _
  | .array [] => chain_cons (fun _ => trivial) (.singleton _)
  | .array (first :: elements) =>
    chain_cons (fun _ => trivial)
      (List.isChain_append.2 ⟨chain_tokens first, chain_elementTokens elements,
        fun token _ => apart_elementTokens token elements⟩)
  | .object [] => chain_cons (fun _ => trivial) (.singleton _)
  | .object ((_, first) :: members) =>
    chain_cons (fun _ => trivial) (chain_cons (fun _ => trivial) (chain_cons (fun _ => trivial)
      (List.isChain_append.2 ⟨chain_tokens first, chain_memberTokens members,
        fun token _ => apart_memberTokens token members⟩)))

theorem chain_elementTokens : ∀ elements : List Value,
    (elementTokens elements).IsChain Token.Apart
  | [] => .singleton _
  | value :: elements =>
    chain_cons (fun _ => trivial)
      (List.isChain_append.2 ⟨chain_tokens value, chain_elementTokens elements,
        fun token _ => apart_elementTokens token elements⟩)

theorem chain_memberTokens : ∀ members : List (List Char × Value),
    (memberTokens members).IsChain Token.Apart
  | [] => .singleton _
  | (_, value) :: members =>
    chain_cons (fun _ => trivial) (chain_cons (fun _ => trivial) (chain_cons (fun _ => trivial)
      (List.isChain_append.2 ⟨chain_tokens value, chain_memberTokens members,
        fun token _ => apart_memberTokens token members⟩)))

end

/-! ### What the machine has taken -/

/-- The tokens of elements that are each followed by a comma. -/
def elementsBefore (elements : List Value) : List Token :=
  elements.flatMap fun value => value.tokens ++ [.comma]

/-- The tokens of members that are each followed by a comma. -/
def membersBefore (members : List (List Char × Value)) : List Token :=
  members.flatMap fun member => .string member.1 :: .colon :: member.2.tokens ++ [.comma]

/-- An array is complete with its last element. -/
theorem elementTokens_of_last (last : Value) : ∀ (before : List Value) (first : Value),
    first.tokens ++ elementTokens (before ++ [last]) =
      elementsBefore (first :: before) ++ last.tokens ++ [.closeArray]
  | [], first => by simp [elementTokens, elementsBefore]
  | second :: before, first => by
    have further := elementTokens_of_last last before second
    simp only [List.cons_append, elementTokens, further]
    simp [elementsBefore]

theorem tokens_array_of_last (before : List Value) (last : Value) :
    (Value.array (before ++ [last])).tokens =
      .openArray :: elementsBefore before ++ last.tokens ++ [.closeArray] := by
  cases before with
  | nil => simp [tokens, elementTokens, elementsBefore]
  | cons first before => simp [tokens, elementTokens_of_last]

/-- An object is complete with its last member. -/
theorem memberTokens_of_last (key : List Char) (last : Value) :
    ∀ (before : List (List Char × Value)) (first : Value),
      first.tokens ++ memberTokens (before ++ [(key, last)]) =
        first.tokens ++ .comma :: membersBefore before ++ .string key :: .colon :: last.tokens ++
          [.closeObject]
  | [], first => by simp [memberTokens, membersBefore]
  | (name, second) :: before, first => by
    have further := memberTokens_of_last key last before second
    simp only [List.cons_append, memberTokens, further]
    simp [membersBefore]

theorem tokens_object_of_last (before : List (List Char × Value)) (key : List Char)
    (last : Value) :
    (Value.object (before ++ [(key, last)])).tokens =
      .openObject :: membersBefore before ++ .string key :: .colon :: last.tokens ++
        [.closeObject] := by
  rcases before with _ | ⟨⟨name, first⟩, before⟩
  · simp [tokens, memberTokens, membersBefore]
  · simp [tokens, memberTokens_of_last, membersBefore]

end Value

open Value (elementsBefore membersBefore)

/-- The tokens of a frame so far. -/
def Frame.taken : Frame → List Token
  | .array elements => .openArray :: elementsBefore elements.reverse
  | .object members key => .openObject :: membersBefore members.reverse ++ [.string key, .colon]

/-- The tokens of a stack so far, whose outermost frame is its last. -/
def stackTaken (stack : List Frame) : List Token :=
  stack.reverse.flatMap Frame.taken

theorem stackTaken_cons (frame : Frame) (stack : List Frame) :
    stackTaken (frame :: stack) = stackTaken stack ++ frame.taken := by
  simp [stackTaken]

namespace State

/-- The tokens that lead to a state. -/
def taken : State → List Token
  | .atValue stack => stackTaken stack
  | .atFirstElement stack => stackTaken stack ++ [.openArray]
  | .atFirstKey stack => stackTaken stack ++ [.openObject]
  | .atKey stack members => stackTaken stack ++ .openObject :: membersBefore members.reverse
  | .atColon stack members key =>
    stackTaken stack ++ .openObject :: membersBefore members.reverse ++ [.string key]
  | .after stack value => stackTaken stack ++ value.tokens

theorem taken_of_begin? {stack : List Frame} {token : Token} {next : State}
    (step : begin? stack token = some next) : next.taken = stackTaken stack ++ [token] := by
  unfold begin? at step
  split at step <;> cases step <;> rfl

theorem taken_of_resume? {stack : List Frame} {value : Value} {token : Token} {next : State}
    (step : resume? stack value token = some next) :
    next.taken = stackTaken stack ++ value.tokens ++ [token] := by
  unfold resume? at step
  split at step <;> cases step
  · simp [taken, stackTaken_cons, Frame.taken, elementsBefore]
  · simp [taken, stackTaken_cons, Frame.taken, Value.tokens_array_of_last]
  · simp [taken, stackTaken_cons, Frame.taken, membersBefore]
  · simp [taken, stackTaken_cons, Frame.taken, Value.tokens_object_of_last]

/-- **A step takes its token** and forgets nothing. -/
theorem taken_of_step? {state next : State} {token : Token} (step : state.step? token = some next) :
    next.taken = state.taken ++ [token] := by
  unfold step? at step
  split at step
  case h_1 => exact taken_of_begin? step
  case h_2 =>
    cases step
    simp [taken, Value.tokens]
  case h_3 =>
    rw [taken_of_begin? step, stackTaken_cons]
    rfl
  case h_4 =>
    cases step
    simp [taken, Value.tokens]
  case h_8 => exact taken_of_resume? step
  case h_9 => cases step
  all_goals
    cases step
    simp [taken, stackTaken_cons, Frame.taken, membersBefore]

/-- **A run takes its tokens.** -/
theorem taken_of_run? {state last : State} {tokens : List Token}
    (run : state.run? tokens = some last) : last.taken = state.taken ++ tokens := by
  induction tokens generalizing state with
  | nil =>
    cases run
    exact (List.append_nil _).symm
  | cons token tokens ih =>
    obtain ⟨next, step, further⟩ := Option.bind_eq_some_iff.1 run
    rw [ih further, taken_of_step? step, List.append_assoc]
    rfl

end State

/-! ### Texts of values -/

namespace Value

/-- Only its own tokens are read as a value. -/
theorem ofTokens?_eq_some_iff {tokens : List Token} {value : Value} :
    ofTokens? tokens = some value ↔ tokens = value.tokens := by
  constructor
  · intro read
    unfold ofTokens? at read
    split at read
    · next found =>
      cases read
      exact (State.taken_of_run? found).symm
    · cases read
  · rintro rfl
    exact ofTokens?_tokens value

/-- A text of a value: its tokens, whose literals follow the grammar, with any blanks. -/
def IsText (value : Value) (text : String) : Prop :=
  (∀ token ∈ value.tokens, token.Formed) ∧ Laid value.tokens text.toList

/-- **A text is read as a value just if it is one of its texts.** -/
theorem read?_eq_some_iff {text : String} {value : Value} :
    read? text = some value ↔ value.IsText text := by
  constructor
  · intro read
    obtain ⟨tokens, found, same⟩ := Option.bind_eq_some_iff.1 read
    obtain ⟨laid, formed⟩ := laid_of_tokens? found
    cases ofTokens?_eq_some_iff.1 same
    exact ⟨formed, laid⟩
  · rintro ⟨formed, laid⟩
    have spells := laid.spells formed value.chain_tokens
    rw [read?, spells.tokens?_eq]
    exact ofTokens?_tokens value

/-- **The text of a value without blanks is read as the value.** -/
theorem read?_written {value : Value} (readable : value.Readable) :
    read? value.written = some value := by
  refine read?_eq_some_iff.2 ⟨fun token member => token.readable_iff.1 (readable token member), ?_⟩
  rw [written, String.toList_ofList]
  exact laid_flatMap value.tokens

end Value

end Playout.Json

import ChannelGuard.Condition.Evaluation
import ChannelGuard.Proofs.Attempts
import ChannelGuard.Proofs.ParsingByGrammar

/-!
# Parsing goes forward

The parser as routines that share a cursor into a row of tokens and call one another. What a routine
does is given up to its calls: it answers, or it makes a call and goes on with the answer. A call
starts at a later token than its caller or, at the same one, on a lower level of the grammar. So no
chain of calls is longer than three for each token, and the parser answers what the routines answer.
-/

namespace ChannelGuard.Condition

/-- The routines of the parser. The two loops, over the segments of a path and over operators, count
as routines that call themselves. -/
inductive Routine where
  | primary
  /-- Goes on with a path of which some segments have been read. -/
  | path (read : List String)
  | unary
  /-- Goes on with the operators after an operand. -/
  | operators (minimum : Nat) (left : Expr)
  | binary (minimum : Nat)

def Routine.level : Routine → Nat
  | primary | path _ | operators _ _ => 0
  | unary => 1
  | binary _ => 2

theorem Routine.level_le (routine : Routine) : routine.level ≤ 2 := by
  cases routine <;> simp [level]

/-- A routine with the position in a row of tokens at which it starts. -/
structure Call where
  routine : Routine
  start : Nat

/-- The expression that was read and the position after it. -/
abbrev Answer := Except SyntaxError (Expr × Nat)

/-- The rest of what a routine does: it answers, or it makes a call and goes on with the answer. -/
inductive Work where
  | done (answer : Answer)
  | call (callee : Call) (goOn : Answer → Work)

namespace Work

/-- Makes a call and goes on if that succeeds. -/
def andThen (callee : Call) (goOn : Expr → Nat → Work) : Work :=
  .call callee fun
    | .ok (e, stop) => goOn e stop
    | .error e => .done (.error e)

/-- What comes out when calls are answered by a function. -/
def result (answer : Call → Answer) : Work → Answer
  | done a => a
  | call callee goOn => (goOn (answer callee)).result answer

/-- What comes out when calls are answered by a function that may not know an answer. -/
def result? (answer? : Call → Option Answer) : Work → Option Answer
  | done a => some a
  | call callee goOn => (answer? callee).bind fun a => (goOn a).result? answer?

/-- The calls that are made when they are answered by a function. -/
inductive Makes (answer : Call → Answer) : Work → Call → Prop where
  | first {callee : Call} {goOn : Answer → Work} : Makes answer (.call callee goOn) callee
  | later {callee other : Call} {goOn : Answer → Work}
      (made : Makes answer (goOn (answer callee)) other) : Makes answer (.call callee goOn) other

theorem result_andThen (answer : Call → Answer) (callee : Call) (goOn : Expr → Nat → Work) :
    (andThen callee goOn).result answer =
      (answer callee).bind fun (e, stop) => (goOn e stop).result answer := by
  simp only [andThen, result]
  cases answer callee <;> rfl

theorem not_makes_done {answer : Call → Answer} {a : Answer} {other : Call} :
    ¬Makes answer (.done a) other := nofun

theorem makes_call_done_iff {answer : Call → Answer} {callee other : Call} :
    Makes answer (.call callee .done) other ↔ other = callee := by
  constructor
  · intro made
    cases made with
    | first => rfl
    | later made => exact absurd made not_makes_done
  · rintro rfl
    exact .first

theorem makes_andThen_iff {answer : Call → Answer} {callee other : Call}
    {goOn : Expr → Nat → Work} : Makes answer (andThen callee goOn) other ↔
      other = callee ∨
        ∃ e stop, answer callee = .ok (e, stop) ∧ Makes answer (goOn e stop) other := by
  constructor
  · intro made
    cases made with
    | first => exact .inl rfl
    | later made =>
      cases given : answer callee with
      | error e =>
        rw [given] at made
        cases made
      | ok read =>
        rw [given] at made
        exact .inr ⟨read.1, read.2, rfl, made⟩
  · rintro (rfl | ⟨e, stop, given, made⟩)
    · exact .first
    · refine .later ?_
      rwa [given]

/-- Work is done with partial knowledge if that covers the calls that are made. -/
theorem result?_eq_some {answer : Call → Answer} {answer? : Call → Option Answer} {work : Work}
    (known : ∀ callee, Makes answer work callee → answer? callee = some (answer callee)) :
    work.result? answer? = some (work.result answer) := by
  induction work with
  | done a => rfl
  | call callee goOn ih =>
    rw [result?, known callee .first]
    exact ih (answer callee) fun other made => known other (.later made)

end Work

/-- What a call does, up to the calls that it makes itself. -/
def work (tokens : List Token) : Call → Work
  | ⟨.binary minimum, start⟩ =>
    .andThen ⟨.unary, start⟩ fun left stop => .call ⟨.operators minimum left, stop⟩ .done
  | ⟨.operators minimum left, start⟩ =>
    match tokens[start]? with
    | some (.operator op) =>
      if op.precedence < minimum then .done (.ok (left, start))
      else
        .andThen ⟨.binary (op.precedence + 1), start + 1⟩ fun right stop =>
          if op.isRelation && startsWithRelation (tokens.drop stop) then
            .done (.error .chainedRelation)
          else .call ⟨.operators minimum (.binary op left right), stop⟩ .done
    | _ => .done (.ok (left, start))
  | ⟨.unary, start⟩ =>
    match tokens[start]? with
    | some .bang => .andThen ⟨.unary, start + 1⟩ fun inner stop => .done (.ok (.not inner, stop))
    | _ => .call ⟨.primary, start⟩ .done
  | ⟨.primary, start⟩ =>
    match tokens[start]? with
    | some (.number n) => .done (.ok (.literal (.number n), start + 1))
    | some (.text s) => .done (.ok (.literal (.string s), start + 1))
    | some (.name word) =>
      match wordLiteral? word with
      | some value => .done (.ok (.literal value, start + 1))
      | none => .call ⟨.path [word], start + 1⟩ .done
    | some .openParen =>
      .andThen ⟨.binary 1, start + 1⟩ fun inner stop =>
        if tokens[stop]? = some .closeParen then .done (.ok (inner, stop + 1))
        else .done (.error .missingCloseParen)
    | some token => .done (.error (.unexpectedToken token))
    | none => .done (.error .unexpectedEnd)
  | ⟨.path read, start⟩ =>
    match tokens[start]? with
    | some .dot =>
      match tokens[start + 1]? with
      | some (.name segment) => .call ⟨.path (read ++ [segment]), start + 2⟩ .done
      | _ => .done (.error .missingSegment)
    | _ => .done (.ok (.path read, start))

/-- The answer to a call whose own calls may go down `depth` levels. -/
def answerWithin (tokens : List Token) : (depth : Nat) → Call → Option Answer
  | 0, _ => none
  | depth + 1, call => (work tokens call).result? (answerWithin tokens depth)

/-! What the parser answers -/

/-- What the parser reads where a routine starts. -/
def Routine.read (tokens : List Token) : Routine → Except SyntaxError (Expr × List Token)
  | primary => readPrimary tokens
  | path read => (readSegments tokens).map fun (more, rest) => (.path (read ++ more), rest)
  | unary => readUnary tokens
  | operators minimum left => readOperators minimum left tokens
  | binary minimum => readBinary minimum tokens

/-- The position of what is left, when reading started at `start`. -/
def place (tokens : List Token) (start : Nat) (rest : List Token) : Nat :=
  start + ((tokens.drop start).length - rest.length)

/-- What the parser reads from the position of a call on. -/
def answer (tokens : List Token) (call : Call) : Answer :=
  (call.routine.read (tokens.drop call.start)).map fun (e, rest) =>
    (e, place tokens call.start rest)

/-! What is left is an end of the tokens -/

variable {tokens rest rest' : List Token} {start stop : Nat} {token : Token}

theorem readSegments_of_no_dot (other : ∀ after, tokens ≠ .dot :: after) :
    readSegments tokens = .ok ([], tokens) := by
  unfold readSegments
  rw [pathSegments]
  · rfl
  · exact fun segment after => other (.name segment :: after)
  · exact other

theorem readSegments_of_no_name (other : ∀ segment after, tokens ≠ .name segment :: after) :
    readSegments (.dot :: tokens) = .error .missingSegment := by
  unfold readSegments
  rw [pathSegments]
  · rfl
  · exact other

theorem readSegments_suffix {tokens rest : List Token} {segments : List String}
    (h : readSegments tokens = .ok (segments, rest)) : rest <:+ tokens :=
  ⟨_, readSegments_sound h⟩

theorem readPrimary_suffix {tokens rest : List Token} {e : Expr}
    (h : readPrimary tokens = .ok (e, rest)) : rest <:+ tokens := by
  obtain ⟨read, whole, -⟩ := readPrimary_sound h
  exact ⟨read, whole⟩

theorem readUnary_suffix {tokens rest : List Token} {e : Expr}
    (h : readUnary tokens = .ok (e, rest)) : rest <:+ tokens := by
  obtain ⟨read, whole, -⟩ := readUnary_sound h
  exact ⟨read, whole⟩

mutual

theorem readBinary_suffix {minimum : Nat} {tokens rest : List Token} {e : Expr}
    (h : readBinary minimum tokens = .ok (e, rest)) : rest <:+ tokens := by
  rw [readBinary_eq] at h
  obtain ⟨⟨left, after⟩, hread, h⟩ := Attempts.bind_eq_ok_iff.mp h
  have shorter := readUnary_shorter hread
  exact (readOperators_suffix h).trans (readUnary_suffix hread)
termination_by (tokens.length, 1)

theorem readOperators_suffix {minimum : Nat} {left : Expr} {tokens rest : List Token} {e : Expr}
    (h : readOperators minimum left tokens = .ok (e, rest)) : rest <:+ tokens := by
  by_cases operator : ∃ op after, tokens = .operator op :: after
  · obtain ⟨op, after, rfl⟩ := operator
    rw [readOperators_operator] at h
    by_cases stops : op.precedence < minimum
    · rw [if_pos stops] at h
      cases h
      exact List.suffix_rfl
    · rw [if_neg stops] at h
      cases hread : readBinary (op.precedence + 1) after with
      | error e => simp [hread, Except.bind] at h
      | ok operand =>
        obtain ⟨right, others⟩ := operand
        simp only [hread, Except.bind] at h
        have shorter := readBinary_shorter hread
        by_cases chained : (op.isRelation && startsWithRelation others) = true
        · simp [chained] at h
        · rw [if_neg chained] at h
          exact (readOperators_suffix h).trans
            ((readBinary_suffix hread).trans (List.suffix_cons _ _))
  · rw [readOperators_of_no_operator _ _ fun op after same => operator ⟨op, after, same⟩] at h
    cases h
    exact List.suffix_rfl
termination_by (tokens.length, 0)
decreasing_by
  all_goals
    subst_vars
    simp only [Prod.lex_def, List.length_cons]
    omega

end

theorem Routine.read_suffix {routine : Routine} {tokens rest : List Token} {e : Expr}
    (h : routine.read tokens = .ok (e, rest)) : rest <:+ tokens := by
  cases routine with
  | primary => exact readPrimary_suffix h
  | unary => exact readUnary_suffix h
  | operators minimum left => exact readOperators_suffix h
  | binary minimum => exact readBinary_suffix h
  | path read =>
    obtain ⟨⟨more, left⟩, hread, same⟩ := Attempts.map_eq_ok_iff.mp h
    cases same
    exact readSegments_suffix hread

/-! Positions -/

theorem drop_of_getElem?_eq_some (next : tokens[start]? = some token) :
    tokens.drop start = token :: tokens.drop (start + 1) := by
  rw [List.drop_eq_getElem?_toList_append, next]
  rfl

theorem getElem?_eq_some_of_drop (row : tokens.drop start = token :: rest) :
    tokens[start]? = some token := by
  rw [← List.head?_drop, row]
  rfl

theorem drop_place (left : rest <:+ tokens.drop start) :
    tokens.drop (place tokens start rest) = rest := by
  rw [place, ← List.drop_drop]
  exact (List.suffix_iff_eq_drop.mp left).symm

theorem place_drop (after : start ≤ stop) (inside : stop ≤ tokens.length) :
    place tokens start (tokens.drop stop) = stop := by
  rw [place, List.length_drop, List.length_drop]
  omega

theorem place_self (tokens : List Token) (start : Nat) :
    place tokens start (tokens.drop start) = start := by
  rw [place, Nat.sub_self, Nat.add_zero]

theorem place_succ (next : tokens[start]? = some token) :
    place tokens start (tokens.drop (start + 1)) = start + 1 :=
  place_drop (Nat.le_succ start) (List.getElem?_eq_some_iff.mp next).1

/-- Reading on from where reading has stopped leads to the same position. -/
theorem place_place (left : rest <:+ tokens.drop start) (left' : rest' <:+ rest) :
    place tokens (place tokens start rest) rest' = place tokens start rest' := by
  have shorter := left.length_le
  have shorter' := left'.length_le
  rw [place, drop_place left, place, place]
  omega

/-! The parser does the work of its calls -/

/-- A call that starts where reading has stopped reads on from there. -/
theorem answer_place (left : rest <:+ tokens.drop start) (routine : Routine) :
    answer tokens ⟨routine, place tokens start rest⟩ =
      (routine.read rest).map fun (e, rest') => (e, place tokens start rest') := by
  unfold answer
  rw [drop_place left]
  cases h : routine.read rest with
  | error e => rfl
  | ok read => simp only [Except.map, place_place left (Routine.read_suffix h)]

theorem answer_drop (after : start ≤ stop) (inside : stop ≤ tokens.length) (routine : Routine) :
    answer tokens ⟨routine, stop⟩ =
      (routine.read (tokens.drop stop)).map fun (e, rest) => (e, place tokens start rest) := by
  have moved := answer_place (List.drop_suffix_drop_left tokens after) routine
  rwa [place_drop after inside] at moved

theorem answer_succ (next : tokens[start]? = some token) (routine : Routine) :
    answer tokens ⟨routine, start + 1⟩ = (routine.read (tokens.drop (start + 1))).map
      fun (e, rest) => (e, place tokens start rest) :=
  answer_drop (Nat.le_succ start) (List.getElem?_eq_some_iff.mp next).1 routine

theorem answer_binary (minimum : Nat) :
    answer tokens ⟨.binary minimum, start⟩ =
      (work tokens ⟨.binary minimum, start⟩).result (answer tokens) := by
  rw [work, Work.result_andThen]
  simp only [answer, Routine.read]
  rw [readBinary_eq]
  cases h : readUnary (tokens.drop start) with
  | error e => rfl
  | ok read => exact (answer_place (readUnary_suffix h) (.operators minimum read.1)).symm

theorem answer_operators (minimum : Nat) (left : Expr) :
    answer tokens ⟨.operators minimum left, start⟩ =
      (work tokens ⟨.operators minimum left, start⟩).result (answer tokens) := by
  by_cases operator : ∃ op, tokens[start]? = some (.operator op)
  · obtain ⟨op, next⟩ := operator
    have row := drop_of_getElem?_eq_some next
    simp only [work, next]
    by_cases stops : op.precedence < minimum
    · simp only [answer, Routine.read, stops, if_true, Work.result]
      rw [row, readOperators_operator, if_pos stops, ← row]
      simp only [Except.map, place_self]
    · rw [if_neg stops, Work.result_andThen, answer_succ next]
      simp only [answer, Routine.read]
      rw [row, readOperators_operator, if_neg stops]
      cases h : readBinary (op.precedence + 1) (tokens.drop (start + 1)) with
      | error e => rfl
      | ok read =>
        have left' : read.2 <:+ tokens.drop start := by
          rw [row]
          exact (readBinary_suffix h).trans (List.suffix_cons _ _)
        simp only [Except.bind, Except.map, drop_place left']
        by_cases chained : (op.isRelation && startsWithRelation read.2) = true
        · simp only [chained, if_true, Work.result]
        · simp only [chained]
          exact (answer_place left' (.operators minimum (.binary op left read.1))).symm
  · have noOperator : ∀ op after, tokens.drop start ≠ .operator op :: after :=
      fun op after row => operator ⟨op, getElem?_eq_some_of_drop row⟩
    have stops : work tokens ⟨.operators minimum left, start⟩ = .done (.ok (left, start)) := by
      simp only [work]
      split
      · next op next => exact absurd ⟨op, next⟩ operator
      · rfl
    simp only [stops, Work.result, answer, Routine.read]
    rw [readOperators_of_no_operator _ _ noOperator]
    simp only [Except.map, place_self]

theorem answer_unary :
    answer tokens ⟨.unary, start⟩ = (work tokens ⟨.unary, start⟩).result (answer tokens) := by
  by_cases negated : tokens[start]? = some .bang
  · simp only [work, negated]
    rw [Work.result_andThen, answer_succ negated]
    simp only [answer, Routine.read]
    rw [drop_of_getElem?_eq_some negated, readUnary_bang]
    cases readUnary (tokens.drop (start + 1)) <;> rfl
  · have noBang : ∀ after, tokens.drop start ≠ .bang :: after :=
      fun after row => negated (getElem?_eq_some_of_drop row)
    have passes : work tokens ⟨.unary, start⟩ = .call ⟨.primary, start⟩ .done := by
      simp only [work]
    simp only [passes, Work.result, answer, Routine.read, readUnary_of_no_bang noBang]

theorem answer_path (read : List String) :
    answer tokens ⟨.path read, start⟩ =
      (work tokens ⟨.path read, start⟩).result (answer tokens) := by
  by_cases dotted : tokens[start]? = some .dot
  · have row := drop_of_getElem?_eq_some dotted
    by_cases named : ∃ segment, tokens[start + 1]? = some (.name segment)
    · obtain ⟨segment, next⟩ := named
      have row' := drop_of_getElem?_eq_some next
      have inside : start + 2 ≤ tokens.length := (List.getElem?_eq_some_iff.mp next).1
      simp only [work, dotted, next, Work.result]
      rw [answer_drop (Nat.le_add_right start 2) inside]
      simp only [answer, Routine.read]
      rw [row, row', readSegments_dot]
      cases readSegments (tokens.drop (start + 2)) with
      | error e => rfl
      | ok segments => simp only [Except.map, List.append_assoc, List.singleton_append]
    · have missing : work tokens ⟨.path read, start⟩ = .done (.error .missingSegment) := by
        simp only [work, dotted]
        split
        · next segment next => exact absurd ⟨segment, next⟩ named
        · rfl
      have noName : ∀ segment after, tokens.drop (start + 1) ≠ .name segment :: after :=
        fun segment after row => named ⟨segment, getElem?_eq_some_of_drop row⟩
      simp only [missing, Work.result, answer, Routine.read]
      rw [row, readSegments_of_no_name noName]
      rfl
  · have noDot : ∀ after, tokens.drop start ≠ .dot :: after :=
      fun after row => dotted (getElem?_eq_some_of_drop row)
    have stops : work tokens ⟨.path read, start⟩ = .done (.ok (.path read, start)) := by
      simp only [work]
    simp only [stops, Work.result, answer, Routine.read, readSegments_of_no_dot noDot, Except.map,
      List.append_nil, place_self]

/-- After an expression in parentheses comes the closing one. -/
theorem answer_group (next : tokens[start]? = some .openParen) :
    answer tokens ⟨.primary, start⟩ = (work tokens ⟨.primary, start⟩).result (answer tokens) := by
  have row := drop_of_getElem?_eq_some next
  simp only [work, next]
  rw [Work.result_andThen, answer_succ next]
  simp only [answer, Routine.read]
  rw [row, readPrimary_openParen]
  cases h : readBinary 1 (tokens.drop (start + 1)) with
  | error e => rfl
  | ok read =>
    obtain ⟨inner, rest⟩ := read
    have left : rest <:+ tokens.drop start := by
      rw [row]
      exact (readBinary_suffix h).trans (List.suffix_cons _ _)
    have stopped := drop_place left
    have after : start ≤ place tokens start rest := Nat.le_add_right ..
    simp only [Except.bind, Except.map]
    generalize place tokens start rest = stop at stopped after ⊢
    subst stopped
    by_cases closed : tokens[stop]? = some .closeParen
    · have inside : stop + 1 ≤ tokens.length := (List.getElem?_eq_some_iff.mp closed).1
      rw [if_pos closed, drop_of_getElem?_eq_some closed]
      simp only [Work.result, place_drop (Nat.le_succ_of_le after) inside]
    · rw [if_neg closed]
      cases row' : tokens.drop stop with
      | nil => rfl
      | cons token others =>
        cases token with
        | closeParen => exact absurd (getElem?_eq_some_of_drop row') closed
        | _ => rfl

theorem answer_primary :
    answer tokens ⟨.primary, start⟩ = (work tokens ⟨.primary, start⟩).result (answer tokens) := by
  cases next : tokens[start]? with
  | none =>
    have row : tokens.drop start = [] :=
      List.drop_eq_nil_iff.mpr (List.getElem?_eq_none_iff.mp next)
    simp only [work, next, Work.result, answer, Routine.read]
    rw [row]
    simp only [readPrimary, parsePrimary, plain, Except.map]
  | some token =>
    have row := drop_of_getElem?_eq_some next
    cases token with
    | number n =>
      simp only [work, next, Work.result, answer, Routine.read]
      rw [row, readPrimary_number]
      simp only [Except.map, place_succ next]
    | text s =>
      simp only [work, next, Work.result, answer, Routine.read]
      rw [row, readPrimary_text]
      simp only [Except.map, place_succ next]
    | name word =>
      simp only [work, next]
      cases found : wordLiteral? word with
      | some value =>
        simp only [answer, Routine.read, Work.result]
        rw [row, readPrimary_name, found]
        simp only [Except.map, place_succ next]
      | none =>
        simp only [Work.result]
        rw [answer_succ next]
        simp only [answer, Routine.read]
        rw [row, readPrimary_name, found]
        rfl
    | openParen => exact answer_group next
    | operator _ | bang | dot | closeParen =>
      simp only [work, next, Work.result, answer, Routine.read]
      rw [row]
      simp only [readPrimary, parsePrimary, plain, Except.map]

theorem answer_eq (tokens : List Token) (call : Call) :
    answer tokens call = (work tokens call).result (answer tokens) := by
  obtain ⟨routine, start⟩ := call
  cases routine with
  | primary => exact answer_primary
  | path read => exact answer_path read
  | unary => exact answer_unary
  | operators minimum left => exact answer_operators minimum left
  | binary minimum => exact answer_binary minimum

/-! Calls go forward or down -/

/-- The routines that read an expression from its first token on. -/
def Routine.Whole : Routine → Prop
  | primary | unary | binary _ => True
  | path _ | operators _ _ => False

theorem Routine.Whole.shorter {routine : Routine} (whole : routine.Whole) {e : Expr}
    (h : routine.read tokens = .ok (e, rest)) : rest.length < tokens.length := by
  cases routine with
  | primary => exact of_plain_eq_ok h
  | unary => exact readUnary_shorter h
  | binary minimum => exact readBinary_shorter h
  | path | operators => exact whole.elim

/-- What reads an expression takes at least one token, and no more than there are. -/
theorem Routine.Whole.progress (routine : Routine) (whole : routine.Whole) {e : Expr}
    (h : answer tokens ⟨routine, start⟩ = .ok (e, stop)) : start < stop ∧ stop ≤ tokens.length := by
  obtain ⟨⟨e, rest⟩, hread, same⟩ := Attempts.map_eq_ok_iff.mp h
  cases same
  have shorter : rest.length < (tokens.drop start).length := whole.shorter hread
  change start < place tokens start rest ∧ place tokens start rest ≤ tokens.length
  rw [List.length_drop] at shorter
  rw [place, List.length_drop]
  omega

/-- A call starts at a later token than its caller, which is there, or on a lower level. -/
def Descends (tokens : List Token) (callee caller : Call) : Prop :=
  caller.start < callee.start ∧ callee.start ≤ tokens.length ∨
    callee.start = caller.start ∧ callee.routine.level < caller.routine.level

theorem descends_succ (next : tokens[start]? = some token) (routine routine' : Routine) :
    Descends tokens ⟨routine, start + 1⟩ ⟨routine', start⟩ :=
  .inl ⟨Nat.lt_succ_self start, (List.getElem?_eq_some_iff.mp next).1⟩

theorem descends_of_makes {caller callee : Call}
    (made : (work tokens caller).Makes (answer tokens) callee) : Descends tokens callee caller := by
  obtain ⟨routine, start⟩ := caller
  cases routine with
  | binary minimum =>
    rcases Work.makes_andThen_iff.mp made with rfl | ⟨left, stop, read, made⟩
    · exact .inr ⟨rfl, Nat.lt_succ_self 1⟩
    · cases Work.makes_call_done_iff.mp made
      exact .inl (Routine.Whole.progress .unary trivial read)
  | operators minimum left =>
    simp only [work] at made
    split at made
    · next op next =>
      split at made
      · exact absurd made Work.not_makes_done
      · rcases Work.makes_andThen_iff.mp made with rfl | ⟨right, stop, read, made⟩
        · exact descends_succ next _ _
        · split at made
          · exact absurd made Work.not_makes_done
          · cases Work.makes_call_done_iff.mp made
            have forward := Routine.Whole.progress (.binary _) trivial read
            exact .inl ⟨Nat.lt_of_succ_lt forward.1, forward.2⟩
    · exact absurd made Work.not_makes_done
  | unary =>
    simp only [work] at made
    split at made
    · next next =>
      rcases Work.makes_andThen_iff.mp made with rfl | ⟨inner, stop, read, made⟩
      · exact descends_succ next _ _
      · exact absurd made Work.not_makes_done
    · cases Work.makes_call_done_iff.mp made
      exact .inr ⟨rfl, Nat.lt_succ_self 0⟩
  | primary =>
    simp only [work] at made
    split at made
    · exact absurd made Work.not_makes_done
    · exact absurd made Work.not_makes_done
    · next word next =>
      split at made
      · exact absurd made Work.not_makes_done
      · cases Work.makes_call_done_iff.mp made
        exact descends_succ next _ _
    · next next =>
      rcases Work.makes_andThen_iff.mp made with rfl | ⟨inner, stop, read, made⟩
      · exact descends_succ next _ _
      · split at made <;> exact absurd made Work.not_makes_done
    · exact absurd made Work.not_makes_done
    · exact absurd made Work.not_makes_done
  | path read =>
    simp only [work] at made
    split at made
    · split at made
      · next segment next =>
        cases Work.makes_call_done_iff.mp made
        exact .inl ⟨Nat.lt_add_of_pos_right (by decide), (List.getElem?_eq_some_iff.mp next).1⟩
      · exact absurd made Work.not_makes_done
    · exact absurd made Work.not_makes_done

/-! Runs end -/

/-- How deep the calls below a call can go. -/
def Call.bound (tokens : List Token) (call : Call) : Nat :=
  3 * (tokens.length - call.start) + call.routine.level

theorem Descends.bound_lt {callee caller : Call} (h : Descends tokens callee caller) :
    callee.bound tokens < caller.bound tokens := by
  have low := callee.routine.level_le
  rcases h with ⟨later, inside⟩ | ⟨same, lower⟩
  · unfold Call.bound
    omega
  · rw [Call.bound, Call.bound, same]
    exact Nat.add_lt_add_left lower _

/-- Calls end with the answer of the parser when they may go deep enough. -/
theorem answerWithin_eq (tokens : List Token) {depth : Nat} {call : Call}
    (deep : call.bound tokens < depth) :
    answerWithin tokens depth call = some (answer tokens call) := by
  induction depth generalizing call with
  | zero => exact absurd deep (Nat.not_lt_zero _)
  | succ depth ih =>
    rw [answer_eq]
    refine Work.result?_eq_some fun callee made => ih ?_
    exact Nat.lt_of_lt_of_le (descends_of_makes made).bound_lt (Nat.le_of_lt_succ deep)

/-- Tokens in front of where a routine starts move what it reads and do not change it. -/
theorem answer_append (before tokens : List Token) (routine : Routine) (start : Nat) :
    answer (before ++ tokens) ⟨routine, before.length + start⟩ =
      (answer tokens ⟨routine, start⟩).map fun (e, stop) => (e, before.length + stop) := by
  simp only [answer, List.drop_length_add_append]
  cases routine.read (tokens.drop start) with
  | error e => rfl
  | ok read => simp only [Except.map, place, List.drop_length_add_append, Nat.add_assoc]

theorem parseTokens_eq_answer (nonempty : tokens ≠ []) :
    parseTokens tokens = (answer tokens ⟨.binary 1, 0⟩).bind fun (e, stop) =>
      match tokens[stop]? with
      | none => .ok e
      | some token => .error (.trailingToken token) := by
  rw [parseTokens_of_ne_nil nonempty]
  simp only [answer, Routine.read, List.drop_zero]
  cases h : readBinary 1 tokens with
  | error e => rfl
  | ok read =>
    obtain ⟨e, rest⟩ := read
    have left : rest <:+ tokens.drop 0 := readBinary_suffix h
    simp only [Except.map, Except.bind, ← List.head?_drop, drop_place left]
    cases rest <;> rfl

/-! Connectives are not compared -/

/-- Compares two values by any operator, and fails without an evaluation error at a connective. -/
def compareBy : Operator → Json → Json → Except (Option EvalError) Bool
  | .relation r, left, right => (relate r left right).mapError some
  | .connective _, _, _ => .error none

/-- Evaluation with one comparison for all operators but those that it catches before. -/
def evalComparing (context : Json) : Expr → Except (Option EvalError) Json
  | .literal value => .ok value
  | .path segments => .ok (resolve context segments)
  | .not inner => do
    let b ← (operand "!" (← evalComparing context inner)).mapError some
    .ok (.bool !b)
  | .binary op left right =>
    match op with
    | .connective .and => do
      if ← (operand "&&" (← evalComparing context left)).mapError some then
        .ok (.bool (← (operand "&&" (← evalComparing context right)).mapError some))
      else .ok (.bool false)
    | .connective .or => do
      if ← (operand "||" (← evalComparing context left)).mapError some then .ok (.bool true)
      else .ok (.bool (← (operand "||" (← evalComparing context right)).mapError some))
    | op => do
      let l ← evalComparing context left
      let r ← evalComparing context right
      .ok (.bool (← compareBy op l r))

section Errors

variable {ε ε' α β : Type} (g : ε → ε')

theorem mapError_bind (x : Except ε α) (f : α → Except ε β) :
    (x >>= f).mapError g = x.mapError g >>= fun a => (f a).mapError g := by
  cases x <;> rfl

theorem mapError_ok (a : α) : (Except.ok a : Except ε α).mapError g = .ok a := rfl

end Errors

/-- No connective comes to be compared. -/
theorem evalComparing_eq (context : Json) (e : Expr) :
    evalComparing context e = (eval context e).mapError some := by
  induction e with
  | literal value => rfl
  | path segments => rfl
  | not inner ih => simp only [evalComparing, eval, ih, mapError_bind, mapError_ok]
  | binary op left right ihLeft ihRight =>
    match op with
    | .relation r =>
      simp only [evalComparing, eval, ihLeft, ihRight, mapError_bind, mapError_ok, compareBy]
    | .connective .and | .connective .or =>
      simp only [evalComparing, eval, ihLeft, ihRight, mapError_bind, mapError_ok,
        apply_ite (Except.mapError some)]

/-- The parser does the work of its routines. One that reads an expression, wherever it starts,
stops at a later position, within the tokens, and tokens in front of its start make no difference.
Every call that is made, the next round of a loop included, starts at a later token than its caller
or on a lower level, so that the routines end with the answer of the parser when calls go no deeper
than three for each token that is left; a condition is what its outermost call reads, if that is all.
Evaluation never comes to compare two values by a connective. -/
theorem parsing_goes_forward (tokens : List Token) :
    (∀ call, answer tokens call = (work tokens call).result (answer tokens)) ∧
    (∀ routine : Routine, routine.Whole → ∀ start e stop,
      answer tokens ⟨routine, start⟩ = .ok (e, stop) → start < stop ∧ stop ≤ tokens.length) ∧
    (∀ before routine start, answer (before ++ tokens) ⟨routine, before.length + start⟩ =
      (answer tokens ⟨routine, start⟩).map fun (e, stop) => (e, before.length + stop)) ∧
    (∀ caller callee, (work tokens caller).Makes (answer tokens) callee →
      Descends tokens callee caller) ∧
    (∀ call depth, call.bound tokens < depth →
      answerWithin tokens depth call = some (answer tokens call)) ∧
    (tokens ≠ [] → parseTokens tokens = (answer tokens ⟨.binary 1, 0⟩).bind fun (e, stop) =>
      match tokens[stop]? with
      | none => .ok e
      | some token => .error (.trailingToken token)) ∧
    (∀ context e, evalComparing context e = (eval context e).mapError some) :=
  ⟨answer_eq tokens, fun _ whole _ _ _ read => Routine.Whole.progress _ whole read,
    fun before => answer_append before tokens, fun _ _ made => descends_of_makes made,
    fun _ _ deep => answerWithin_eq tokens deep, parseTokens_eq_answer, evalComparing_eq⟩

/-- A negated path: the negation calls itself one token further on. -/
theorem parsing_goes_forward_negation :
    answer [.bang, .name "a"] ⟨.binary 1, 0⟩ = .ok (.not (.path ["a"]), 2) ∧
    (0 < 2 ∧ 2 ≤ [Token.bang, .name "a"].length) ∧
    Descends [.bang, .name "a"] ⟨.unary, 1⟩ ⟨.unary, 0⟩ ∧
    parseTokens [.bang, .name "a"] = .ok (.not (.path ["a"])) := by
  obtain ⟨-, progress, -, descends, ends, parsed, -⟩ :=
    parsing_goes_forward [.bang, .name "a"]
  have run : answerWithin [.bang, .name "a"] 9 ⟨.binary 1, 0⟩ =
      some (.ok (.not (.path ["a"]), 2)) := rfl
  have read : answer [.bang, .name "a"] ⟨.binary 1, 0⟩ = .ok (.not (.path ["a"]), 2) :=
    Option.some.inj ((ends _ 9 (by decide)).symm.trans run)
  refine ⟨read, progress (.binary 1) trivial _ _ _ read, descends _ _ .first, ?_⟩
  rw [parsed (by simp), read]
  rfl

end ChannelGuard.Condition

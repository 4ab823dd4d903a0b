import ChannelGuard.Proofs.ChannelNames
import ChannelGuard.Proofs.DecisionTable

/-!
# Guarded channels

Whether a channel is guarded can be read off the start of its name, and the three requests that
concern a channel agree on it. On a guarded channel no client may publish, whatever the rules, and
the defaults decide where there is no rule; all other channels are open to everybody.
-/

namespace ChannelGuard

/-- The name is `crud>` with more to follow, which does not start with another `>`. -/
def Channel.Guarded (name : String) : Prop :=
  ∃ (c : Char) (rest : String), c ≠ '>' ∧ name = "crud>" ++ c.toString ++ rest

theorem Channel.not_guarded_of_segment {name : String} (h : Segment name "") : ¬Guarded name := by
  rintro ⟨c, rest, different, rfl⟩
  obtain ⟨-, after, spelled, ends⟩ := h
  have same : c :: rest.toList = after.toList := by
    have spelled := congrArg String.toList spelled
    simpa using spelled
  rcases ends with rfl | ⟨more, rfl⟩
  · simp at same
  · simp only [String.toList_append, String.reduceToList, List.cons_append, List.cons.injEq] at same
    exact different same.1

theorem Channel.classify_eq_other_iff_not_guarded {name : String} :
    classify name = .other ↔ ¬Guarded name := by
  rw [classify_eq_other_iff]
  constructor
  · rintro (foreign | silent)
    · rintro ⟨c, rest, -, rfl⟩
      exact foreign ⟨c.toString ++ rest, String.append_assoc ..⟩
    · exact not_guarded_of_segment silent
  · intro unguarded
    by_contra h
    obtain ⟨⟨rest, rfl⟩, spoken⟩ := (not_or.mp h).imp_left not_not.mp
    cases spelled : rest.toList with
    | nil =>
      have empty : rest = "" := String.toList_eq_nil_iff.mp spelled
      exact spoken ⟨by simp, rest, by simp, .inl empty⟩
    | cons c tail =>
      have parts : rest = c.toString ++ String.ofList tail := by
        rw [← String.toList_inj, spelled]
        simp
      by_cases divided : c = '>'
      · subst divided
        exact spoken ⟨by simp, rest, by simp, .inr ⟨String.ofList tail, parts⟩⟩
      · exact unguarded ⟨c, String.ofList tail, divided, by rw [parts, String.append_assoc]⟩

theorem Channel.classify_ne_other {name : String} (guarded : Guarded name) :
    classify name ≠ .other :=
  mt classify_eq_other_iff_not_guarded.mp (not_not_intro guarded)

namespace AccessControl

variable {ε : Type} [Evaluator ε] {control : AccessControl ε} {name : String}

theorem publishIn_of_guarded (guarded : Channel.Guarded name) (data : Json) (socket : Socket) :
    control.outcome (.publishIn name data socket) = .refused .publishNotAllowed := by
  refine (refused_of_plan ?_).1
  cases h : Channel.classify name with
  | other => exact absurd h (Channel.classify_ne_other guarded)
  | malformed => simp only [Request.plan, h]
  | resource query => simp only [Request.plan, h]

theorem subscribe_fallsBack (guarded : Channel.Guarded name)
    (unruled : ∀ query, Channel.classify name = .resource query →
      control.registry.lookup query.type .inbound = none) (socket : Socket) (granted : Bool) :
    control.FallsBack (.subscribe name socket granted) (·.blockInbound) (.subscription name) := by
  cases h : Channel.classify name with
  | other => exact absurd h (Channel.classify_ne_other guarded)
  | malformed => exact subscribe_fallsBack_of_malformed h socket granted
  | resource query =>
    have plan : (Request.subscribe name socket granted).plan control.handle =
        .ask ⟨some query.type, .inbound, .subscription name, granted,
          ⟨socket, .subscribe, .channel query, none, control.handle, socket.token⟩⟩ := by
      simp only [Request.plan, h]
    exact fallsBack_of_ask plan (unruled query h) fun _ => rfl

theorem publishOut_fallsBack (guarded : Channel.Guarded name)
    (unruled : ∀ query, Channel.classify name = .resource query →
      control.registry.lookup query.type .outbound = none) (data : Json) (socket : Socket) :
    control.FallsBack (.publishOut name data socket) (·.blockOutbound) (.broadcast name) := by
  cases h : Channel.classify name with
  | other => exact absurd h (Channel.classify_ne_other guarded)
  | malformed => exact publishOut_fallsBack_of_malformed h data socket
  | resource query =>
    have plan : (Request.publishOut name data socket).plan control.handle =
        .ask ⟨some query.type, .outbound, .broadcast name, false,
          ⟨socket, .publish, .channel query, some data, control.handle, socket.token⟩⟩ := by
      simp only [Request.plan, h]
    exact fallsBack_of_ask plan (unruled query h) fun _ => rfl

theorem passes_of_not_guarded (control : AccessControl ε) (unguarded : ¬Channel.Guarded name)
    (data : Json) (socket : Socket) (granted : Bool) :
    control.Passes (.publishIn name data socket) ∧ control.Passes (.publishOut name data socket) ∧
      control.Passes (.subscribe name socket granted) := by
  have other := Channel.classify_eq_other_iff_not_guarded.mpr unguarded
  refine ⟨?_, ?_, ?_⟩ <;> exact passes_of_plan (by simp only [Request.plan, other])

/-- Where a subscription or a broadcast can be refused at all, the channel is guarded. -/
theorem guarded_of_refused {data : Json} {socket : Socket} {granted : Bool} {refusal : Refusal}
    (refused : control.outcome (.subscribe name socket granted) = .refused refusal ∨
      control.outcome (.publishOut name data socket) = .refused refusal) :
    Channel.Guarded name := by
  by_contra unguarded
  obtain ⟨-, broadcast, subscription⟩ :=
    control.passes_of_not_guarded unguarded data socket granted
  rcases refused with refused | refused
  · rw [subscription.1] at refused
    cases refused
  · rw [broadcast.1] at refused
    cases refused

/-- The three requests that concern a channel agree on whether it is guarded. -/
theorem guarded_channels_agree (control : AccessControl ε) (name : String) :
    (Channel.Guarded name →
      (∀ data socket,
        control.outcome (.publishIn name data socket) = .refused .publishNotAllowed) ∧
      (control.defaults.blockInbound = true →
        (∀ query, Channel.classify name = .resource query →
          control.registry.lookup query.type .inbound = none) →
        ∀ socket granted, control.outcome (.subscribe name socket granted) =
          .refused (.noRule (.subscription name))) ∧
      (control.defaults.blockOutbound = true →
        (∀ query, Channel.classify name = .resource query →
          control.registry.lookup query.type .outbound = none) →
        ∀ data socket, control.outcome (.publishOut name data socket) =
          .refused (.noRule (.broadcast name)))) ∧
    (¬Channel.Guarded name → ∀ data socket granted,
      control.Passes (.publishIn name data socket) ∧
      control.Passes (.publishOut name data socket) ∧
      control.Passes (.subscribe name socket granted)) ∧
    (∀ data socket granted refusal,
      control.outcome (.subscribe name socket granted) = .refused refusal ∨
        control.outcome (.publishOut name data socket) = .refused refusal →
      ∀ {δ : Type} [Evaluator δ] (other : AccessControl δ) data socket,
        other.outcome (.publishIn name data socket) = .refused .publishNotAllowed) := by
  refine ⟨fun guarded => ⟨?_, ?_, ?_⟩, control.passes_of_not_guarded, ?_⟩
  · exact publishIn_of_guarded guarded
  · intro blocking unruled socket granted
    exact ((subscribe_fallsBack guarded unruled socket granted).blocked blocking).1
  · intro blocking unruled data socket
    exact ((publishOut_fallsBack guarded unruled data socket).blocked blocking).1
  · intro data socket granted refusal refused δ _ other
    exact publishIn_of_guarded (guarded_of_refused refused)

theorem guarded_channels_agree_malformed :
    let control : AccessControl Condition := ⟨.empty, ⟨true, true, none⟩, none⟩
    let socket : Socket := ⟨"", none⟩
    Channel.Guarded "crud>/1" ∧ ¬Channel.Guarded "crud>>Post" ∧
      control.outcome (.subscribe "crud>/1" socket true) =
        .refused (.noRule (.subscription "crud>/1")) ∧
      control.outcome (.publishIn "crud>/1" .null socket) = .refused .publishNotAllowed ∧
      control.Passes (.publishIn "crud>>Post" .null socket) := by
  intro control socket
  obtain ⟨guarded, -, refused⟩ := guarded_channels_agree control "crud>/1"
  have isGuarded : Channel.Guarded "crud>/1" := ⟨'/', "1", by decide, by decide⟩
  have isOpen : ¬Channel.Guarded "crud>>Post" := by
    rw [← Channel.classify_eq_other_iff_not_guarded]
    rfl
  have malformed : Channel.classify "crud>/1" = .malformed := rfl
  have unruled (query : ResourceQuery) (named : Channel.classify "crud>/1" = .resource query) :
      control.registry.lookup query.type .inbound = none := by
    rw [malformed] at named
    cases named
  have subscription := (guarded isGuarded).2.1 rfl unruled socket true
  have passes := (guarded_channels_agree control "crud>>Post").2.1 isOpen .null socket true
  exact ⟨isGuarded, isOpen, subscription,
    refused .null socket true _ (.inl subscription) control .null socket, passes.1⟩

end AccessControl

end ChannelGuard

import CardEffects.Proofs.Invariants

/-!
# The depth guard

An evaluation with a limit is the evaluation without one, cut at the first node that lies too deep.
`visits` tells the nodes that the unlimited run enters, in the order in which it enters them and
each with its level and with what was done until then; whether and where the guard strikes is read
off from it.
-/

namespace CardEffects

structure Visit (χ : Type) where
  level : Nat
  node : Expr
  session : Session χ
  events : List Event

variable {χ ε α β : Type}

def Visit.after (events : List Event) (v : Visit χ) : Visit χ :=
  { v with events := events ++ v.events }

def Outcome.andThen (o : Outcome χ ε α) (next : α → Session χ → List (Visit χ)) : List (Visit χ) :=
  match o with
  | ⟨.done a, s, events⟩ => (next a s).map (Visit.after events)
  | _ => []

/-- The outcome, or the failure of the guard at the first visit below the limit. -/
def Outcome.cut (limit : Nat) (visits : List (Visit χ)) (o : Outcome χ RuntimeError α) :
    Outcome χ RuntimeError α :=
  match visits.find? (·.level == limit + 1) with
  | some v => ⟨.failed ⟨.tooDeep limit, v.node.pos⟩, v.session, v.events⟩
  | none => o

def Outcome.TooDeep (o : Outcome χ RuntimeError α) : Prop :=
  ∃ err, o.verdict = .failed err ∧ err.cause.kind = .depthExceeded

theorem Outcome.cut_of_forall {limit : Nat} {vs : List (Visit χ)} {o : Outcome χ RuntimeError α}
    (h : ∀ v ∈ vs, v.level ≠ limit + 1) : o.cut limit vs = o := by
  have none : vs.find? (·.level == limit + 1) = none := by
    rw [List.find?_eq_none]
    intro v hv
    simpa using h v hv
  rw [Outcome.cut, none]

theorem Outcome.cut_of_first {limit : Nat} {before after : List (Visit χ)} {v : Visit χ}
    {o : Outcome χ RuntimeError α} (first : ∀ u ∈ before, u.level ≠ limit + 1)
    (deep : v.level = limit + 1) :
    o.cut limit (before ++ v :: after)
      = ⟨.failed ⟨.tooDeep limit, v.node.pos⟩, v.session, v.events⟩ := by
  have none : before.find? (·.level == limit + 1) = none := by
    rw [List.find?_eq_none]
    intro u hu
    simpa using first u hu
  have here : (v :: after).find? (·.level == limit + 1) = some v := by
    rw [List.find?_cons_of_pos]
    simpa using deep
  rw [Outcome.cut, List.find?_append, none, Option.none_or, here]

theorem Outcome.forall_of_cut {limit : Nat} {vs : List (Visit χ)} {o : Outcome χ RuntimeError α}
    (h : ¬ (o.cut limit vs).TooDeep) : ∀ v ∈ vs, v.level ≠ limit + 1 := by
  simp only [Outcome.cut] at h
  split at h
  · exact absurd ⟨_, rfl, rfl⟩ h
  · rename_i none
    intro v hv
    simpa using List.find?_eq_none.mp none v hv

namespace Run

def Guards (limit : Nat) (guarded free : Run χ RuntimeError α)
    (visits : Session χ → List (Visit χ)) :
    Prop :=
  ∀ s, guarded s = (free s).cut limit (visits s)

variable {limit : Nat} {x x' : Run χ RuntimeError α} {visits : Session χ → List (Visit χ)}

theorem guards_self (x : Run χ RuntimeError α) : Guards limit x x fun _ => [] := fun _ => rfl

theorem find?_after (level : Nat) (events : List Event) (vs : List (Visit χ)) :
    (vs.map (Visit.after events)).find? (·.level == level)
      = (vs.find? (·.level == level)).map (Visit.after events) := by
  rw [List.find?_map]
  rfl

theorem Guards.bind {f f' : α → Run χ RuntimeError β} {next : α → Session χ → List (Visit χ)}
    (hx : Guards limit x' x visits) (hf : ∀ a, Guards limit (f' a) (f a) (next a)) :
    Guards limit (x' >>= f') (x >>= f) fun s => visits s ++ (x s).andThen next := by
  intro s
  have first := hx s
  simp only [Outcome.cut] at first ⊢
  rw [List.find?_append]
  cases found : (visits s).find? (·.level == limit + 1) with
  | some v =>
    rw [found] at first
    exact bind_of_failed first
  | none =>
    rw [found] at first
    rcases run : x s with ⟨v, t, events⟩
    rw [run] at first
    cases v with
    | done a =>
      have second := hf a t
      simp only [Outcome.cut] at second
      rw [bind_of_done first, bind_of_done run]
      simp only [Outcome.andThen, find?_after, Option.none_or]
      cases struck : (next a t).find? (·.level == limit + 1) with
      | some u =>
        rw [struck] at second
        rw [second]
        rfl
      | none =>
        rw [struck] at second
        rw [second]
        rfl
    | failed e =>
      rw [bind_of_failed first, bind_of_failed run]
      rfl
    | refused r =>
      rw [bind_of_refused first, bind_of_refused run]
      rfl

theorem Guards.bind_last (hx : Guards limit x' x visits) (f : α → Run χ RuntimeError β) :
    Guards limit (x' >>= f) (x >>= f) visits := by
  have none_after (s : Session χ) : (x s).andThen (fun _ _ => []) = [] := by
    simp only [Outcome.andThen]
    split <;> rfl
  simpa only [none_after, List.append_nil] using hx.bind fun a => guards_self (f a)

theorem Guards.node {level : Nat} (within : level ≤ limit) (e : Expr)
    (hx : level < limit → Guards limit x' x visits) :
    Guards limit (checkLevel (some limit) level e.pos >>= fun _ => x')
      (checkLevel none level e.pos >>= fun _ => x)
      fun s => ⟨level + 1, e, s, []⟩ :: visits s := by
  intro s
  have free : (checkLevel none level e.pos >>= fun _ => x) s = x s := rfl
  rw [free]
  by_cases h : level = limit
  · simp only [checkLevel, h, Nat.le_refl, if_true, Outcome.cut, List.find?_cons, BEq.rfl]
    rfl
  · have below : level < limit := Nat.lt_of_le_of_ne within h
    have entered : (checkLevel (some limit) level e.pos >>= fun _ => x') s = x' s := by
      simp only [checkLevel, Nat.not_le_of_lt below, if_false]
      rfl
    have other : (level + 1 == limit + 1) = false := by simpa using h
    rw [entered, hx below s]
    simp only [Outcome.cut, List.find?_cons, other]

end Run

open Run

variable [ScriptContext χ]

/-- The nodes that the run of an expression without a limit enters, from session `s`, if the
expression is at a level. An argument is entered only behind a receiver that is a known list. -/
def visits (level : Nat) (e : Expr) (s : Session χ) : List (Visit χ) :=
  ⟨level, e, s, []⟩ :: match e with
  | .number _ | .text _ | .boolean _ | .var _ | .step _ _ _ | .trigger _ | .zone _ _ => []
  | .group inner => visits (level + 1) inner s
  | .unary _ _ operand => visits (level + 1) operand s
  | .binary _ _ left right =>
    visits (level + 1) left s ++
      (evaluate none level left s).andThen fun _ => visits (level + 1) right
  | .assign _ value => visits (level + 1) value s
  | .zoneOf _ player _ => visits (level + 1) player s
  | .call receiver _ _ => visits (level + 1) receiver s
  | .callWith receiver (.card _) name arg =>
    visits (level + 1) receiver s ++
      ((evaluate none level receiver >>= receiverOf name) s).andThen fun _ => visits (level + 1) arg
  | .callWith receiver (.pile _) _ _ => visits (level + 1) receiver s

theorem evaluate_guards {limit level : Nat} (within : level ≤ limit) (e : Expr) :
    Guards (χ := χ) limit (evaluate (some limit) level e) (evaluate none level e)
      (visits (level + 1) e) := by
  induction e generalizing level with
  | number token => exact Guards.node within _ fun _ => guards_self _
  | text token => exact Guards.node within _ fun _ => guards_self _
  | boolean token => exact Guards.node within _ fun _ => guards_self _
  | var name => exact Guards.node within _ fun _ => guards_self _
  | step op name operator => exact Guards.node within _ fun _ => guards_self _
  | trigger token => exact Guards.node within _ fun _ => guards_self _
  | zone kind access => exact Guards.node within _ fun _ => guards_self _
  | group inner ih => exact Guards.node within _ fun below => ih below
  | unary op operator operand ih => exact Guards.node within _ fun below => (ih below).bind_last _
  | binary op operator left right ihl ihr =>
    exact Guards.node within _ fun below => (ihl below).bind fun a => (ihr below).bind_last _
  | assign name value ih => exact Guards.node within _ fun below => (ih below).bind_last _
  | zoneOf kind player access ih => exact Guards.node within _ fun below => (ih below).bind_last _
  | call receiver method name ih => exact Guards.node within _ fun below => (ih below).bind_last _
  | callWith receiver method name arg ihr iha =>
    cases method with
    | card m =>
      refine Guards.node within _ fun below => ?_
      have checked := (ihr below).bind_last (receiverOf name)
      have whole := checked.bind fun zone => (iha below).bind_last fun given =>
        cardArgument name given >>= fun c => applyCard m zone c name.pos
      simpa only [bind_bind] using whole
    | pile m => exact Guards.node within _ fun below => (ihr below).bind_last _

def Expr.height : Expr → Nat
  | .number _ | .text _ | .boolean _ | .var _ | .step _ _ _ | .trigger _ | .zone _ _ => 1
  | .group inner => inner.height + 1
  | .unary _ _ operand => operand.height + 1
  | .binary _ _ left right => max left.height right.height + 1
  | .assign _ value => value.height + 1
  | .zoneOf _ player _ => player.height + 1
  | .call receiver _ _ => receiver.height + 1
  | .callWith receiver _ _ arg => max receiver.height arg.height + 1

/-- The visits lie within `height` levels from the given one on, and none of these is left out above
a visit. -/
def Levels (level height : Nat) (vs : List (Visit χ)) : Prop :=
  ∀ v ∈ vs, v.level < level + height ∧ ∀ k, level ≤ k → k ≤ v.level → ∃ u ∈ vs, u.level = k

section

variable {level height : Nat} {vs ws : List (Visit χ)}

omit [ScriptContext χ]

theorem levels_nil : Levels level height ([] : List (Visit χ)) := fun _ hv => nomatch hv

theorem Levels.mono {height' : Nat} (h : Levels level height vs) (le : height ≤ height') :
    Levels level height' vs := by
  intro v hv
  obtain ⟨lt, above⟩ := h v hv
  exact ⟨by omega, above⟩

theorem Levels.append (hv : Levels level height vs) (hw : Levels level height ws) :
    Levels level height (vs ++ ws) := by
  intro v mem
  rcases List.mem_append.mp mem with left | right
  · obtain ⟨lt, above⟩ := hv v left
    refine ⟨lt, fun k low high => ?_⟩
    obtain ⟨u, hu, at_k⟩ := above k low high
    exact ⟨u, List.mem_append_left _ hu, at_k⟩
  · obtain ⟨lt, above⟩ := hw v right
    refine ⟨lt, fun k low high => ?_⟩
    obtain ⟨u, hu, at_k⟩ := above k low high
    exact ⟨u, List.mem_append_right _ hu, at_k⟩

theorem levels_andThen (o : Outcome χ ε α) {next : α → Session χ → List (Visit χ)}
    (h : ∀ a s, Levels level height (next a s)) : Levels level height (o.andThen next) := by
  obtain ⟨v, t, events⟩ := o
  cases v with
  | done a =>
    intro v mem
    obtain ⟨w, hw, rfl⟩ := List.mem_map.mp mem
    obtain ⟨lt, above⟩ := h a t w hw
    refine ⟨lt, fun k low high => ?_⟩
    obtain ⟨u, hu, at_k⟩ := above k low high
    exact ⟨u.after events, List.mem_map_of_mem hu, at_k⟩
  | failed e => exact levels_nil
  | refused r => exact levels_nil

theorem Levels.cons (e : Expr) (s : Session χ) (h : Levels (level + 1) height vs) :
    Levels level (height + 1) (⟨level, e, s, []⟩ :: vs) := by
  intro v mem
  rcases List.mem_cons.mp mem with rfl | deeper
  · refine ⟨by simp only; omega, fun k low high => ?_⟩
    have root : level = k := by simp only at high; omega
    exact ⟨_, List.mem_cons_self, root⟩
  · obtain ⟨lt, above⟩ := h v deeper
    refine ⟨by omega, fun k low high => ?_⟩
    by_cases root : level = k
    · exact ⟨_, List.mem_cons_self, root⟩
    · obtain ⟨u, hu, at_k⟩ := above k (by omega) high
      exact ⟨u, List.mem_cons_of_mem _ hu, at_k⟩

end

theorem levels_visits (level : Nat) (e : Expr) (s : Session χ) :
    Levels level e.height (visits level e s) := by
  induction e generalizing level s with
  | number | text | boolean | var | step | trigger | zone =>
    have none : Levels (level + 1) 0 ([] : List (Visit χ)) := levels_nil
    exact none.cons _ s
  | group inner ih => exact (ih (level + 1) s).cons _ s
  | unary op operator operand ih => exact (ih (level + 1) s).cons _ s
  | binary op operator left right ihl ihr =>
    have hl := (ihl (level + 1) s).mono (Nat.le_max_left left.height right.height)
    have hr (t : Session χ) := (ihr (level + 1) t).mono (Nat.le_max_right left.height right.height)
    exact (hl.append (levels_andThen _ fun _ => hr)).cons _ s
  | assign name value ih => exact (ih (level + 1) s).cons _ s
  | zoneOf kind player access ih => exact (ih (level + 1) s).cons _ s
  | call receiver method name ih => exact (ih (level + 1) s).cons _ s
  | callWith receiver method name arg ihr iha =>
    have hr := (ihr (level + 1) s).mono (Nat.le_max_left receiver.height arg.height)
    have ha (t : Session χ) :=
      (iha (level + 1) t).mono (Nat.le_max_right receiver.height arg.height)
    cases method with
    | card m => exact (hr.append (levels_andThen _ fun _ => ha)).cons _ s
    | pile m => exact hr.cons _ s

def Shallow (e : Option RuntimeError) : Prop :=
  ∀ err, e = some err → err.cause.kind ≠ .depthExceeded

theorem shallow_some {cause : Cause} (pos : SourcePos) (h : ∀ m, cause ≠ .tooDeep m) :
    Shallow (some ⟨cause, pos⟩) := by
  rintro err ⟨⟩ deep
  cases cause with
  | tooDeep m => exact h m rfl
  | _ => cases deep

theorem shallow_unknownZone (zone : ZoneHandle) (pos : SourcePos) :
    Shallow (some ⟨.unknownZone zone, pos⟩) := by
  apply shallow_some
  intro m same
  cases same

theorem shallow_none : Shallow none := by
  intro err none
  cases none

theorem shallow_editOf (zone : ZoneHandle) (pos : SourcePos) :
    (editOf (χ := χ) zone pos).Within (fun _ => True) Shallow fun _ => True := by
  intro s _
  simp only [editOf, getContext_bind]
  cases ScriptContext.edit? s.context zone with
  | some edit => exact ⟨trivial, trivial⟩
  | none => exact ⟨shallow_unknownZone zone pos, trivial⟩

theorem shallow_cardsOf (zone : ZoneHandle) (pos : SourcePos) :
    (cardsOf (χ := χ) zone pos).Within (fun _ => True) Shallow fun _ => True := by
  intro s _
  simp only [cardsOf, getContext_bind]
  cases ScriptContext.cards? s.context zone with
  | some cards => exact ⟨trivial, trivial⟩
  | none => exact ⟨shallow_unknownZone zone pos, trivial⟩

theorem shallow_isScriptInvariant :
    IsScriptInvariant (χ := χ) (fun _ => True) (fun _ => True) Shallow where
  plain _ := trivial
  ordinary pos h := shallow_some pos fun m deep => by rw [deep] at h; cases h
  bound _ _ := trivial
  assigned _ _ _ _ := trivial
  zone _ _ _ := trivial
  refused _ _ _ := shallow_none
  unknown pos _ _ _ := shallow_unknownZone _ pos
  card m zone c pos _ _ := (shallow_editOf zone pos).bind fun edit _ _ _ => ⟨trivial, trivial⟩
  pile m zone pos _ := by
    cases m with
    | pop => exact (shallow_editOf zone pos).bind fun edit _ _ _ => ⟨trivial, trivial⟩
    | shuffle =>
      have write (order : List CardId) : (do
          let edit ← editOf zone pos
          setContext (edit.put order)
          emit (.changed zone .shuffled)
          return .cardList zone : Run χ RuntimeError Value).Within (fun _ => True) Shallow
            fun _ => True :=
        (shallow_editOf zone pos).bind fun edit _ _ _ => ⟨trivial, trivial⟩
      exact (shallow_cardsOf zone pos).bind fun cards _ s _ => write _ _ trivial

theorem evaluate_none_not_tooDeep (level : Nat) (e : Expr) (s : Session χ) :
    ¬ (evaluate none level e s).TooDeep := by
  rintro ⟨err, failed, deep⟩
  have free : (evaluate (χ := χ) none level e).Within (fun _ => True) Shallow fun _ => True :=
    shallow_isScriptInvariant.evaluate (fun _ _ h => by cases h) level e
  have h := free s trivial
  rw [failed] at h
  exact h.1 err rfl deep

theorem run_eq_cut (limit : Nat) (e : Expr) (s : Session χ) :
    (EvalConfig.mk limit).run e s = (evaluate none 0 e s).cut limit (visits 1 e s) := by
  rw [EvalConfig.run_eq]
  exact evaluate_guards (Nat.zero_le limit) e s

theorem run_eq_of_height_le {config : EvalConfig} {e : Expr} (low : e.height ≤ config.maxDepth)
    (s : Session χ) : config.run e s = evaluate none 0 e s := by
  have shallow : ∀ v ∈ visits 1 e s, v.level ≠ config.maxDepth + 1 := by
    intro v hv
    have lt := (levels_visits 1 e s v hv).1
    omega
  rw [run_eq_cut, Outcome.cut_of_forall shallow]

/-- The guard is exact, and nothing else fails as it does: a run that enters no node below the limit
is not affected by it, and any other fails at the first such node, with the session as it was when
the node was reached. So no tree within the limit fails at the guard, and a higher limit gives the
same outcome to all that did not. -/
theorem depth_guard_exact (limit : Nat) (e : Expr) (s : Session χ) :
    ¬ (evaluate none 0 e s).TooDeep ∧
    ((∀ v ∈ visits 1 e s, v.level ≠ limit + 1) →
      (EvalConfig.mk limit).run e s = evaluate none 0 e s) ∧
    (∀ before v after, visits 1 e s = before ++ v :: after →
      (∀ u ∈ before, u.level ≠ limit + 1) → v.level = limit + 1 →
      (EvalConfig.mk limit).run e s
        = ⟨.failed ⟨.tooDeep limit, v.node.pos⟩, v.session, v.events⟩) ∧
    (e.height ≤ limit → ¬ ((EvalConfig.mk limit).run e s).TooDeep) ∧
    ∀ higher, limit ≤ higher → ¬ ((EvalConfig.mk limit).run e s).TooDeep →
      (EvalConfig.mk higher).run e s = (EvalConfig.mk limit).run e s := by
  refine ⟨evaluate_none_not_tooDeep 0 e s, fun shallow => ?_,
    fun before v after split first deep => ?_, fun low => ?_, fun higher le passed => ?_⟩
  · rw [run_eq_cut, Outcome.cut_of_forall shallow]
  · rw [run_eq_cut, split, Outcome.cut_of_first first deep]
  · have shallow : ∀ v ∈ visits 1 e s, v.level ≠ limit + 1 := by
      intro v hv
      have lt := (levels_visits 1 e s v hv).1
      omega
    rw [run_eq_cut, Outcome.cut_of_forall shallow]
    exact evaluate_none_not_tooDeep 0 e s
  · rw [run_eq_cut] at passed
    have shallow := Outcome.forall_of_cut passed
    -- A visit below the higher limit would have one below the lower limit above it.
    have above : ∀ v ∈ visits 1 e s, v.level ≠ higher + 1 := by
      intro v hv deep
      obtain ⟨u, hu, at_limit⟩ := (levels_visits 1 e s v hv).2 (limit + 1) (by omega) (by omega)
      exact shallow u hu at_limit
    rw [run_eq_cut, run_eq_cut, Outcome.cut_of_forall shallow, Outcome.cut_of_forall above]

theorem depth_guard_exact_behind_pop :
    let deck := MatchState.handleOf .deck ⟨0⟩
    let dealt : MatchState := ⟨1, ⟨0⟩, (MatchState.layout 1).setCards deck [⟨1⟩], ∅, .ofSeed 0, ⟨2⟩⟩
    let literal := Expr.number (some ⟨"7", ⟨1, 20⟩⟩)
    let e := Expr.ofBinary .equal (.ofCall (.ofZone .deck) (.pile .pop)) (.group (.group literal))
    let s : Session MatchState := ⟨.empty, dealt⟩
    let reached : Visit MatchState :=
      ⟨4, literal, ⟨.empty, dealt.withCards deck []⟩, [.changed deck (.popped (some ⟨1⟩))]⟩
    (visits 1 e s).map (·.level) = [1, 2, 3, 2, 3, 4] ∧
      visits 1 e s = (visits 1 e s).take 5 ++ [reached] ∧
      (EvalConfig.mk 3).run e s
        = ⟨.failed ⟨.tooDeep 3, ⟨1, 20⟩⟩, reached.session, reached.events⟩ ∧
      ¬ ((EvalConfig.mk 4).run e s).TooDeep ∧
      (EvalConfig.mk 4).run e s = evaluate none 0 e s ∧
      (EvalConfig.mk 9).run e s = (EvalConfig.mk 4).run e s := by
  intro deck dealt literal e s reached
  have levels : (visits 1 e s).map (·.level) = [1, 2, 3, 2, 3, 4] := by decide +kernel
  have order : visits 1 e s = (visits 1 e s).take 5 ++ [reached] := rfl
  have apart (n : Nat) (vs : List (Visit MatchState)) (h : n ∉ vs.map (·.level)) :
      ∀ v ∈ vs, v.level ≠ n := by
    rintro v hv rfl
    exact h (List.mem_map_of_mem hv)
  have first := apart 4 ((visits 1 e s).take 5) (by rw [List.map_take, levels]; decide)
  have within := apart 5 (visits 1 e s) (by rw [levels]; decide)
  have struck := (depth_guard_exact 3 e s).2.2.1 _ reached [] order first rfl
  obtain ⟨-, free, -, low, higher⟩ := depth_guard_exact 4 e s
  have passed := low (by decide)
  exact ⟨levels, order, struck, passed, free within, higher 9 (by decide) passed⟩

end CardEffects

import CardEffects.Proofs.Blame
import CardEffects.Proofs.Requests

/-!
# Zones of numbered players

The zone of the player with a number is that of his seat. In a match that a host can reach, the
numbers from one to that of the seats are those of its players, and whatever a script asks for, the
match has an answer: the zone, or a failure that says which number nobody has.
-/

namespace CardEffects

namespace PlayerId

variable {seats : Nat} {number : Int}

theorem exists_number (few : seats ≤ maxPlayers) (low : 1 ≤ number) (high : number ≤ seats) :
    ∃ p : PlayerId, p.number = number ∧ p.index.toNat < seats := by
  have byte : seats ≤ 255 := few
  have index : (UInt8.ofNat (number - 1).toNat).toNat = (number - 1).toNat := by
    rw [UInt8.toNat_ofNat']
    omega
  exact ⟨⟨UInt8.ofNat (number - 1).toNat⟩, by simp only [PlayerId.number, index]; omega, by
    simp only [index]; omega⟩

theorem ofNumber?_eq_none_iff (few : seats ≤ maxPlayers) :
    ofNumber? number seats = none ↔ ¬ (1 ≤ number ∧ number ≤ seats) := by
  have byte : seats ≤ 255 := few
  simp only [ofNumber?, bmod_seats few]
  split
  · simp only [reduceCtorEq, false_iff]
    omega
  · simp only [true_iff]
    omega

end PlayerId

namespace Run

section

variable {χ : Type} [ScriptContext χ] {limit : Option Nat} {level : Nat} {kind : ZoneKind}
  {arg : Expr} {access : Token} {s t : Session χ} {events : List Event}

theorem evaluate_zoneOf_of_done {v : Value}
    (done : evaluate limit (level + 1) arg s = ⟨.done v, t, events⟩) :
    evaluate limit level (.zoneOf kind arg access) s =
      ⟨(numberedZone kind access v t).verdict, t,
        events ++ (numberedZone kind access v t).events⟩ := by
  rw [evaluate, checkLevel_of_done done, pure_bind, bind_of_done done,
    (readOnly_numberedZone kind access v t).1]

theorem evaluate_zoneOf_of_failed {err : RuntimeError} (admitted : admits limit level = true)
    (failed : evaluate limit (level + 1) arg s = ⟨.failed err, t, events⟩) :
    evaluate limit level (.zoneOf kind arg access) s = ⟨.failed err, t, events⟩ := by
  rw [evaluate, checkLevel_of_admitted admitted, pure_bind, bind_of_failed failed]

theorem evaluate_zoneOf_done_iff {v : Value} :
    (evaluate limit level (.zoneOf kind arg access) s).verdict = .done v ↔ ∃ a t events,
      evaluate limit (level + 1) arg s = ⟨.done a, t, events⟩ ∧
      (numberedZone kind access a t).verdict = .done v := by
  constructor
  · intro done
    exact bind_done_iff.mp (checked_done done)
  · rintro ⟨a, t, events, done, found⟩
    rw [evaluate_zoneOf_of_done done]
    exact found

theorem numberedZone_of_kind_ne {v : Value} (other : v.kind ≠ .number) :
    numberedZone kind access v s =
      ⟨.failed ⟨.playerNotANumber, access.pos⟩, s, [.playerRejected kind v.kind]⟩ := by
  cases v with
  | number x => exact absurd rfl other
  | _ => rfl

end

variable {kind : ZoneKind} {access : Token} {s : Session MatchState} {x : Float}

theorem numberedZone_of_seated (few : s.context.seats ≤ maxPlayers) {p : PlayerId}
    (called : p.number = Number.toInt64 x) (seated : p.index.toNat < s.context.seats) :
    numberedZone kind access (.number x) s =
      ⟨.done (.cardList (MatchState.handleOf kind p)), s, []⟩ := by
  have player := PlayerId.ofNumber?_number few seated
  have zone := MatchState.zoneHandle_eq_ok.mpr ⟨seated, Eq.refl (MatchState.handleOf kind p)⟩
  simp only [numberedZone, getContext_bind, ScriptContext.player?, ← called, player,
    ScriptContext.zone, zone]
  rfl

theorem numberedZone_of_unseated (few : s.context.seats ≤ maxPlayers)
    (nobody : ¬ (1 ≤ Number.toInt64 x ∧ Number.toInt64 x ≤ s.context.seats)) :
    numberedZone kind access (.number x) s =
      ⟨.failed ⟨.noSuchPlayer (Number.toInt64 x), access.pos⟩, s, []⟩ := by
  have player := (PlayerId.ofNumber?_eq_none_iff few).mpr nobody
  simp only [numberedZone, getContext_bind, ScriptContext.player?, player]
  rfl

theorem numberedZone_done_iff (few : s.context.seats ≤ maxPlayers) {a : Value} :
    (∃ v, (numberedZone kind access a s).verdict = .done v) ↔
      ∃ x, a = .number x ∧ 1 ≤ Number.toInt64 x ∧ Number.toInt64 x ≤ s.context.seats := by
  constructor
  · rintro ⟨v, done⟩
    by_cases number : a.kind = .number
    · cases a with
      | number x =>
        refine ⟨x, rfl, ?_⟩
        by_contra nobody
        rw [numberedZone_of_unseated few nobody] at done
        cases done
      | _ => cases number
    · rw [numberedZone_of_kind_ne number] at done
      cases done
  · rintro ⟨x, rfl, low, high⟩
    obtain ⟨p, called, seated⟩ := PlayerId.exists_number few low high
    exact ⟨_, by rw [numberedZone_of_seated few called seated]⟩

end Run

namespace MatchState

theorem Reached.laidOut {m : MatchState} (reached : m.Reached) : m.frame.LaidOut m.seats := by
  obtain ⟨config, ids, env, reached⟩ := reached
  obtain ⟨started, requests, start, rfl⟩ := reached.exists_play
  have laid := laidOut_play (laidOut_start start) requests
  exact ⟨laid.toSeated, rfl, by rw [laid.plan, ← laid.seats_eq]; rfl⟩

theorem zoneHandle_describes {m : MatchState} (laid : m.frame.LaidOut m.seats) (kind : ZoneKind)
    {p : PlayerId} (seated : p.index.toNat < m.seats) :
    m.zoneHandle kind p = .ok (handleOf kind p) ∧ m.zones.kind? (handleOf kind p) = some kind ∧
      if kind = .board then handleOf kind p = board else m.zones.owner? (handleOf kind p) =
        some p := by
  have layout := hasLayout_of_frame laid
  have found := zoneHandle_eq_ok.mpr ⟨seated, Eq.refl (handleOf kind p)⟩
  refine ⟨found, ?_⟩
  by_cases shared : kind = .board
  · subst shared
    exact ⟨layout.board.2.1, rfl⟩
  · obtain ⟨zone, found', -, kind?, owner?⟩ := layout.own kind p shared seated
    cases found.symm.trans found'
    exact ⟨kind?, by simpa only [shared, if_false] using owner?⟩

end MatchState

open Run

/-- In a match that a host can reach, and wherever a script stands in it, the zone of the player
with a number is found just if the argument has a number that, cut to an integer, is that of a seat,
and it is the zone of that seat, or the board. Any other number is named as that of no player, any
other value is no argument, and if the argument has no value, the zone has none for the same reason.
So a script never asks for a seat that the match does not have. -/
theorem numbered_zones_are_seated {m : MatchState} (reached : m.Reached) :
    (∀ (limit : Option Nat) (level : Nat) (kind : ZoneKind) (arg : Expr) (access : Token)
      (s : Session MatchState), s.context.frame = m.frame →
      let o := evaluate limit (level + 1) arg s
      let z := evaluate limit level (.zoneOf kind arg access) s
      ((∃ v, z.verdict = .done v) ↔ ∃ x, o.verdict = .done (.number x) ∧
        1 ≤ Number.toInt64 x ∧ Number.toInt64 x ≤ m.seats) ∧
      (∀ x, o.verdict = .done (.number x) → 1 ≤ Number.toInt64 x → Number.toInt64 x ≤ m.seats →
        ∃ p zone, (p.index.toNat : Int) = Number.toInt64 x - 1 ∧ m.zoneHandle kind p = .ok zone ∧
          m.zones.kind? zone = some kind ∧
          (if kind = .board then zone = MatchState.board else m.zones.owner? zone = some p) ∧
          z = ⟨.done (.cardList zone), o.session, o.events⟩) ∧
      (∀ x, o.verdict = .done (.number x) → ¬ (1 ≤ Number.toInt64 x ∧ Number.toInt64 x ≤ m.seats) →
        z = ⟨.failed ⟨.noSuchPlayer (Number.toInt64 x), access.pos⟩, o.session, o.events⟩) ∧
      (∀ v, o.verdict = .done v → v.kind ≠ .number →
        z = ⟨.failed ⟨.playerNotANumber, access.pos⟩, o.session,
          o.events ++ [.playerRejected kind v.kind]⟩) ∧
      (∀ err, o.verdict = .failed err → admits limit level = true →
        z = ⟨.failed err, o.session, o.events⟩) ∧
      ∀ n, limit = some n → n ≤ level → z = ⟨.failed ⟨.tooDeep n, access.pos⟩, s, []⟩) ∧
    ∀ (config : EvalConfig) (e : Expr) (env : Environment) (r : Refusal),
      (config.run e ⟨env, m⟩).verdict ≠ .refused r := by
  have laid := reached.laidOut
  refine ⟨fun limit level kind arg access s same => ?_,
    fun config e env => run_not_refused (s := ⟨env, m⟩) laid.toSeated config e⟩
  intro o z
  have frame : o.session.context.frame = m.frame :=
    (frame_evaluate limit (level + 1) arg s).trans same
  have seats : o.session.context.seats = m.seats := congrArg Frame.seats frame
  have few : o.session.context.seats ≤ maxPlayers := seats ▸ laid.few
  have ran {v : Value} (done : o.verdict = .done v) :
      evaluate limit (level + 1) arg s = ⟨.done v, o.session, o.events⟩ := by rw [← done]
  have next {v : Value} (done : o.verdict = .done v) :
      z = ⟨(numberedZone kind access v o.session).verdict,
      o.session, o.events ++ (numberedZone kind access v o.session).events⟩ :=
    evaluate_zoneOf_of_done (ran done)
  refine ⟨?found, fun x done low high => ?zone, fun x done nobody => ?unknown,
    fun v done other => ?rejected, fun err failed admitted => ?passed, ?deep⟩
  case found =>
    rw [← seats]
    constructor
    · rintro ⟨v, done⟩
      obtain ⟨a, t, events, done, found⟩ := evaluate_zoneOf_done_iff.mp done
      have argument : o = ⟨.done a, t, events⟩ := done
      rw [argument] at few ⊢
      obtain ⟨x, rfl, within⟩ := (numberedZone_done_iff few).mp ⟨v, found⟩
      exact ⟨x, rfl, within⟩
    · rintro ⟨x, done, within⟩
      obtain ⟨v, found⟩ := (numberedZone_done_iff few).mpr ⟨x, rfl, within⟩
      exact ⟨v, evaluate_zoneOf_done_iff.mpr ⟨_, _, _, ran done, found⟩⟩
  case zone =>
    obtain ⟨p, called, seated⟩ := PlayerId.exists_number laid.few low high
    obtain ⟨handle, kind?, owner?⟩ := MatchState.zoneHandle_describes laid kind seated
    refine ⟨p, _, by simp only [PlayerId.number] at called; omega, handle, kind?, owner?, ?_⟩
    rw [next done, numberedZone_of_seated few called (seats ▸ seated), List.append_nil]
  case unknown => rw [next done, numberedZone_of_unseated few (seats ▸ nobody), List.append_nil]
  case rejected => rw [next done, numberedZone_of_kind_ne other]
  case passed => exact evaluate_zoneOf_of_failed admitted (by rw [← failed])
  case deep =>
    rintro n rfl below
    exact evaluate_of_deep below _ s

theorem numbered_zones_are_seated_two :
    let m : MatchState := ⟨2, ⟨0⟩, MatchState.layout 2, ∅, .ofSeed 0, ⟨1⟩⟩
    let s : Session MatchState := ⟨.empty, m⟩
    let access : Token := ⟨"OfPlayer", ⟨1, 1⟩⟩
    m.Reached ∧
      (evaluate (some 2) 0 (.zoneOf .hand (.ofNumber "2.9") access) s).verdict
        = .done (.cardList (MatchState.handleOf .hand ⟨1⟩)) ∧
      m.zones.owner? (MatchState.handleOf .hand ⟨1⟩) = some ⟨1⟩ ∧
      evaluate (some 2) 0 (.zoneOf .board (.ofNumber "0.5") access) s
        = ⟨.failed ⟨.noSuchPlayer 0, ⟨1, 1⟩⟩, s, []⟩ ∧
      evaluate (some 2) 0 (.zoneOf .deck (.ofText "2") access) s
        = ⟨.failed ⟨.playerNotANumber, ⟨1, 1⟩⟩, s, [.playerRejected .deck .text]⟩ ∧
      evaluate (some 2) 0 (.zoneOf .deck (.ofVar "n") access) s
        = ⟨.failed ⟨.undefined "n", .zero⟩, s, []⟩ := by
  intro m s access
  have reached : m.Reached := ⟨⟨2, 0⟩, [], .empty, .start rfl⟩
  have zones := (numbered_zones_are_seated reached).1 (some 2) 0
  have two : Number.toInt64 2.9 = 2 := by decide +kernel
  have zero : Number.toInt64 0.5 = 0 := by decide +kernel
  obtain ⟨-, own, -⟩ := zones .hand (.ofNumber "2.9") access s rfl
  obtain ⟨p, _, index, handle, -, owner, found⟩ :=
    own 2.9 rfl (by rw [two]; decide) (by rw [two]; decide)
  have second : p = ⟨1⟩ := by
    rw [two] at index
    have one : p.index.toNat = (1 : UInt8).toNat := by
      rw [UInt8.toNat_one]
      omega
    cases p
    exact congrArg PlayerId.mk (UInt8.toNat_inj.mp one)
  obtain ⟨-, -, nobody, -⟩ := zones .board (.ofNumber "0.5") access s rfl
  have unknown := nobody 0.5 rfl (by rw [zero]; decide)
  obtain ⟨-, -, -, rejected, -⟩ := zones .deck (.ofText "2") access s rfl
  obtain ⟨-, -, -, -, passed, -⟩ := zones .deck (.ofVar "n") access s rfl
  subst second
  obtain ⟨-, rfl⟩ := MatchState.zoneHandle_eq_ok.mp handle
  rw [zero] at unknown
  exact ⟨reached, congrArg Outcome.verdict found, owner, unknown, rejected (.text "2") rfl nofun,
    passed _ rfl rfl⟩

end CardEffects

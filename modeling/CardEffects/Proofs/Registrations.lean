import CardEffects.Proofs.ByteOrder
import CardEffects.Proofs.Histories
import CardEffects.Proofs.Sequences

/-!
# Registrations over time

A registry under the calls of a host, from the empty one on. It holds under each name the script
that was registered last under it, whatever was configured or invoked in between; so what it shows,
and what an invocation does, follows from the calls alone.
-/

namespace CardEffects

inductive RegistryCall (χ : Type) where
  | register (script : EffectScript)
  | withConfig (config : EvalConfig)
  | invoke (name : String) (vars : Environment) (context : χ)

inductive RegistryReply (χ : Type) where
  | replaced (script? : Option EffectScript)
  | configured
  | ran (o : Outcome χ EffectError Value)

namespace RegistryCall

variable {χ : Type}

def script? : RegistryCall χ → Option EffectScript
  | register script => some script
  | _ => none

def config? : RegistryCall χ → Option EvalConfig
  | withConfig config => some config
  | _ => none

def latest? (calls : List (RegistryCall χ)) (name : String) : Option EffectScript :=
  (calls.filterMap script?).findRev? (·.name == name)

def latestConfig (calls : List (RegistryCall χ)) : EvalConfig :=
  (calls.filterMap config?).getLastD .default

variable {calls : List (RegistryCall χ)} {call : RegistryCall χ} {name : String}
  {script : EffectScript}

theorem script?_eq_some : call.script? = some script ↔ call = .register script := by
  cases call <;> simp [script?]

theorem latest?_concat : latest? (calls ++ [call]) name =
    (call.script?.filter (·.name == name)).or (latest? calls name) := by
  cases added : call.script? with
  | none => simp [latest?, List.filterMap_append, added]
  | some script =>
    simp only [latest?, List.findRev?_eq_find?_reverse, List.filterMap_append, List.filterMap_cons,
      added, List.filterMap_nil, List.reverse_append, List.reverse_singleton, List.singleton_append,
      List.find?_cons, Option.filter_some]
    cases script.name == name <;> rfl

theorem latestConfig_concat :
    latestConfig (calls ++ [call]) = call.config?.getD (latestConfig calls) := by
  cases added : call.config? <;> simp [latestConfig, List.filterMap_append, added]

theorem name_of_latest? (h : latest? calls name = some script) : script.name = name := by
  rw [latest?, List.findRev?_eq_find?_reverse] at h
  simpa using List.find?_some h

theorem exists_latest?_iff : (∃ script, latest? calls name = some script) ↔
    ∃ script, .register script ∈ calls ∧ script.name = name := by
  rw [← Option.isSome_iff_exists, latest?, List.findRev?_eq_find?_reverse, List.find?_isSome]
  simp only [List.mem_reverse, List.mem_filterMap, script?_eq_some, beq_iff_eq]
  constructor
  · rintro ⟨script, ⟨_, called, rfl⟩, named⟩
    exact ⟨script, called, named⟩
  · rintro ⟨script, called, named⟩
    exact ⟨script, ⟨_, called, rfl⟩, named⟩

end RegistryCall

namespace EffectRegistry

section

variable (r : EffectRegistry) (name : String)

theorem contains_iff : r.contains name = true ↔ ∃ script, r.get? name = some script := by
  rw [contains, Std.TreeMap.contains_eq_isSome_getElem?, Option.isSome_iff_exists]
  rfl

theorem mem_names_iff : name ∈ r.names ↔ ∃ script, r.get? name = some script := by
  rw [← contains_iff, contains, names, Std.TreeMap.mem_keys, Std.TreeMap.contains_iff_mem]

theorem length_names : r.names.length = r.size := Std.TreeMap.length_keys

theorem isEmpty_iff : r.isEmpty = true ↔ ∀ name script, r.get? name ≠ some script := by
  rw [isEmpty, Std.TreeMap.isEmpty_iff_forall_not_mem]
  exact forall_congr' fun name => by
    rw [← Std.TreeMap.contains_iff_mem, ← contains, contains_iff, not_exists]

theorem names_ordered : r.names.Pairwise fun a b => Text.bytes a < Text.bytes b := by
  refine Std.TreeMap.ordered_keys.imp fun less => ?_
  exact Text.bytes_lt_iff.mpr (compare_lt_iff_lt.mp less)

end

variable {χ : Type} [ScriptContext χ]

def serve (r : EffectRegistry) : RegistryCall χ → RegistryReply χ × EffectRegistry
  | .register script =>
    let (old, r) := r.register script
    (.replaced old, r)
  | .withConfig config => (.configured, r.withConfig config)
  | .invoke name vars context => (.ran (r.invoke name vars context), r)

def after (r : EffectRegistry) (calls : List (RegistryCall χ)) : EffectRegistry :=
  History.after serve r calls

def replies (r : EffectRegistry) (calls : List (RegistryCall χ)) : List (RegistryReply χ) :=
  History.replies serve r calls

variable (r : EffectRegistry) (call : RegistryCall χ) (calls : List (RegistryCall χ))
  (name : String)

theorem get?_serve : (r.serve call).2.get? name =
    (call.script?.filter (·.name == name)).or (r.get? name) := by
  cases call with
  | register script =>
    refine (r.get?_register script name).trans ?_
    by_cases named : script.name = name <;> simp [RegistryCall.script?, Option.filter_some, named]
  | withConfig config => rfl
  | invoke name vars context => rfl

theorem config_serve : (r.serve call).2.config = call.config?.getD r.config := by
  cases call <;> rfl

theorem scripts_serve (h : call.script? = none) : (r.serve call).2.scripts = r.scripts := by
  cases call with
  | register script => cases h
  | withConfig config => rfl
  | invoke name vars context => rfl

theorem get?_after : (empty.after calls).get? name = RegistryCall.latest? calls name := by
  induction calls using List.reverseRecOn with
  | nil => exact get?_empty name
  | append_singleton calls call ih =>
    rw [RegistryCall.latest?_concat, ← ih, ← get?_serve, after, History.after_concat]
    rfl

theorem config_after : (empty.after calls).config = RegistryCall.latestConfig calls := by
  induction calls using List.reverseRecOn with
  | nil => rfl
  | append_singleton calls call ih =>
    rw [RegistryCall.latestConfig_concat, ← ih, ← config_serve, after, History.after_concat]
    rfl

theorem exists_get?_after : (∃ script, (empty.after calls).get? name = some script) ↔
    ∃ script, .register script ∈ calls ∧ script.name = name := by
  simp only [get?_after]
  exact RegistryCall.exists_latest?_iff

theorem isEmpty_after :
    (empty.after calls).isEmpty = true ↔ ∀ script, .register script ∉ calls := by
  rw [isEmpty_iff]
  constructor
  · intro bare script called
    obtain ⟨other, held⟩ := (exists_get?_after calls script.name).mpr ⟨script, called, rfl⟩
    exact bare script.name other held
  · intro bare name script held
    obtain ⟨other, called, -⟩ := (exists_get?_after calls name).mp ⟨script, held⟩
    exact bare other called

theorem performs_after {script : EffectScript}
    (latest : RegistryCall.latest? calls name = some script) (vars : Environment) (context : χ) :
    Performs (RegistryCall.latestConfig calls) name script.body ⟨vars, context⟩
      ((empty.after calls).invoke name vars context) := by
  rw [performs_iff, ← config_after, invoke, get?_after, latest]

theorem unknown_after (none : RegistryCall.latest? calls name = none) (vars : Environment)
    (context : χ) :
    (empty.after calls).invoke name vars context =
      ⟨.failed (.unknown name), ⟨vars, context⟩, []⟩ := by
  rw [invoke, get?_after, none]
  rfl

end EffectRegistry

open EffectRegistry RegistryCall

/-- A registry is the calls made to it, as far as it shows: under each name the script registered
last under it, and the names in byte order. A registration gives back the script that was found
under the name until then, configurations and invocations leave all scripts as they are, and an
invocation performs the body of the script registered last under its name, under the configuration
given last. -/
theorem last_registrations_win {χ : Type} [ScriptContext χ] (calls : List (RegistryCall χ)) :
    let r := empty.after calls
    (∀ name, r.get? name = latest? calls name) ∧
    (∀ name script, r.get? name = some script → script.name = name) ∧
    (∀ name, r.contains name = true ↔ ∃ script, r.get? name = some script) ∧
    (r.names.Pairwise fun a b => Text.bytes a < Text.bytes b) ∧
    (∀ name, name ∈ r.names ↔ ∃ script, .register script ∈ calls ∧ script.name = name) ∧
    r.size = r.names.length ∧
    (r.isEmpty = true ↔ ∀ script, .register script ∉ calls) ∧
    ∀ before call later, calls = before ++ call :: later →
      let found := empty.after before
      let left := empty.after (before ++ [call])
      let reply? := (empty.replies calls)[before.length]?
      (∀ script, call = .register script → reply? = some (.replaced (found.get? script.name))) ∧
      (call.script? = none → left.scripts = found.scripts) ∧
      ∀ name vars context, call = .invoke name vars context → ∃ o, reply? = some (.ran o) ∧
        (∀ script, latest? before name = some script →
          Performs (latestConfig before) name script.body ⟨vars, context⟩ o) ∧
        (latest? before name = none → o = ⟨.failed (.unknown name), ⟨vars, context⟩, []⟩) := by
  intro r
  refine ⟨get?_after calls, ?named, contains_iff r, names_ordered r, ?listed, (length_names r).symm,
    isEmpty_after calls, ?called⟩
  case named =>
    intro name script held
    rw [get?_after] at held
    exact name_of_latest? held
  case listed =>
    intro name
    rw [mem_names_iff]
    exact exists_get?_after calls name
  case called =>
    rintro before call later rfl found left reply?
    have reply : reply? = some (found.serve call).1 :=
      History.getElem?_replies serve empty before later call
    have next : left = (found.serve call).2 := History.after_concat serve empty before call
    refine ⟨?_, fun other => ?_, ?_⟩
    · rintro script rfl
      exact reply
    · rw [next]
      exact scripts_serve found call other
    · rintro name vars context rfl
      exact ⟨_, reply, fun script latest => performs_after before name latest vars context,
        fun none => unknown_after before name none vars context⟩

theorem last_registrations_win_anew :
    let deck := MatchState.handleOf .deck ⟨0⟩
    let m : MatchState :=
      ⟨1, ⟨0⟩, (MatchState.layout 1).setCards deck [⟨1⟩, ⟨2⟩], ∅, .ofSeed 0, ⟨3⟩⟩
    let mill : EffectScript := ⟨"Mill", [.ofCall (.ofZone .deck) (.pile .pop)]⟩
    let bare : EffectScript := ⟨"Mill", []⟩
    let invocation : RegistryCall MatchState := .invoke "Mill" .empty m
    let calls := [.register mill, .withConfig ⟨1⟩, invocation, .register bare, invocation]
    let replies := empty.replies calls
    let struck : RuntimeError := ⟨.tooDeep 1, .zero⟩
    (empty.after calls).get? "Mill" = some bare ∧ "Mill" ∈ (empty.after calls).names ∧
      (empty.after (calls.take 3)).scripts = (empty.after (calls.take 2)).scripts ∧
      replies[2]? = some (.ran ⟨.failed (.aborted "Mill" struck), ⟨.empty, m⟩,
        [.effectInvoked "Mill" 1, .effectAborted "Mill" struck]⟩) ∧
      replies[3]? = some (.replaced (some mill)) ∧
      replies[4]? = some (.ran ⟨.done .null, ⟨.empty, m⟩,
        [.effectInvoked "Mill" 0, .effectFinished "Mill" .null]⟩) := by
  intro deck m mill bare invocation calls replies struck
  obtain ⟨latest, -, -, -, listed, -, -, called⟩ := last_registrations_win calls
  obtain ⟨-, kept, ran⟩ := called (calls.take 2) invocation (calls.drop 3) rfl
  obtain ⟨o, aborted, performed, -⟩ := ran "Mill" .empty m rfl
  cases performs_iff.mp (performed mill rfl)
  obtain ⟨replaced, -, -⟩ := called (calls.take 3) (.register bare) (calls.drop 4) rfl
  have before := (last_registrations_win (calls.take 3)).1 "Mill"
  obtain ⟨-, -, ran⟩ := called (calls.take 4) invocation [] rfl
  obtain ⟨o, finished, performed, -⟩ := ran "Mill" .empty m rfl
  cases performs_iff.mp (performed bare rfl)
  refine ⟨latest "Mill", (listed "Mill").mpr ⟨mill, .head _, rfl⟩, kept rfl, aborted, ?_, finished⟩
  exact (replaced bare rfl).trans (congrArg (some ∘ RegistryReply.replaced) before)

end CardEffects

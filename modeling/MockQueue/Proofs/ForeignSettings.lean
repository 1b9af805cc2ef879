import MockQueue.Proofs.Composition
import MockQueue.Proofs.EnvironmentGrammar

/-!
# The settings behind foreign calls

The operations of a session leave its settings and its formatter alone, and whoever sets new settings sets
the formatter with them (`final_coherent`). The environment sets no marker. So unless the program around
foreign code sets another, the marker is the default one, and messages always have room for it
(`marker_of_calls`).
-/

namespace MockQueue.Boundary

/-! ## Settings from the environment -/

/-- The environment sets no marker. -/
theorem ofEnvironment_marker {e : Environment} {settings : Settings} (read : Settings.ofEnvironment e = .ok settings) :
    settings.marker = ({} : Settings).marker := by
  obtain ⟨-, -, -⟩ := (Environment.ofEnvironment_eq_ok_iff e settings).mp read
  rfl

/-! ## The formatter -/

/-- All parts of a call keep the formatter the one of the settings. -/
theorem keeps_coherent (call : Call) : call.scope.Keeps Session.Coherent fun _ => True :=
  Scope.keeps_state (fun {a} _ _ coherent => Session.act_coherent coherent a) (fun _ _ coherent => coherent)
    fun _ _ _ => Session.coherent_fresh _

/-- However a thread is used, the formatter of its session is the one of its settings. -/
theorem final_coherent (calls : List Call) {h : Host} {s : Session} (idle : h.slot = .idle s) (coherent : s.Coherent) :
    ∃ t, (Run.final perform calls h).slot = .idle t ∧ t.Coherent := by
  refine final_keeps (fun call _ h s here holds => ?_) idle coherent
  obtain ⟨t, left, keeps, -⟩ := (perform_composed call).keeps (keeps_coherent call) here holds
  exact ⟨t, left, keeps⟩

/-! ## The marker -/

/-- The marker is the default one, and messages have room for more. -/
def HasMarker (s : Session) : Prop :=
  s.settings.marker = ({} : Settings).marker ∧ s.settings.markerSize < s.settings.capacity

/-- All parts of a call keep the marker, but for the call by which the program around sets all settings. -/
theorem keeps_marker {call : Call} (other : ∀ settings, call ≠ .sessionConfigure settings) :
    call.scope.Keeps HasMarker fun _ => True := by
  refine Scope.keeps_state (fun {a s} _ has => ?_) (fun _ _ has => has) fun {settings s} asked _ taken => ?_
  · have same : (Session.act a s).state.settings = s.settings := (Session.act_faithful a s).settings
    rw [HasMarker, same]
    exact has
  · rcases (asks_cases asked).1 with ⟨environment, read⟩ | isConfigure
    · obtain ⟨valid, -⟩ := (Slot.refusal?_eq_none_iff settings (.idle s)).mp taken
      exact ⟨ofEnvironment_marker read, ((Settings.validate_eq_ok_iff _ _).mp valid).1⟩
    · exact absurd isConfigure (other settings)

/-- A run keeps the marker if each of its calls does. -/
theorem final_hasMarker {calls : List Call} {h : Host} {s : Session}
    (others : ∀ settings, .sessionConfigure settings ∉ calls) (idle : h.slot = .idle s) (has : HasMarker s) :
    ∃ t, (Run.final perform calls h).slot = .idle t ∧ HasMarker t := by
  refine final_keeps (fun call member h s here holds => ?_) idle has
  have other : ∀ settings, call ≠ .sessionConfigure settings := by
    rintro settings rfl
    exact others settings member
  obtain ⟨t, left, keeps, -⟩ := (perform_composed call).keeps (keeps_marker other) here holds
  exact ⟨t, left, keeps⟩

/-- However foreign code calls, the marker of its messages is the default one, and whole. -/
theorem marker_of_calls {calls : List Call} (others : ∀ settings, .sessionConfigure settings ∉ calls) :
    ∃ s, (Run.final perform calls {}).slot = .idle s ∧ s.Coherent ∧ s.formatter.marker = "...".toList := by
  have start : HasMarker {} := ⟨rfl, by decide⟩
  obtain ⟨s, slot, marker, size⟩ := final_hasMarker (h := {}) others rfl start
  obtain ⟨t, left, coherent⟩ := final_coherent calls (h := {}) rfl (Session.coherent_fresh {})
  obtain rfl : t = s := Slot.idle.inj (left.symm.trans slot)
  refine ⟨t, slot, coherent, ?_⟩
  have fits : Text.byteSize t.settings.marker.toList ≤ t.settings.capacity - 1 := Nat.le_sub_one_of_lt size
  rw [show t.formatter = t.settings.formatter from coherent]
  change Text.cut (t.settings.capacity - 1) t.settings.marker.toList = _
  rw [Text.cut_eq_self fits, marker]

end MockQueue.Boundary

/-
Pairs of runs of a module.

A module is gone through twice, from compilations in which different numbers of objects have been
made and different modules declared.  A `Pairing` says what the two runs are to have in common:
their objects are numbered anew, what is recorded for a declaration and what is reported is
related, and nothing is said about the declarations of other modules.

* `Shift.back` — a renumbering that moves numbers back behind an earlier start;
* `Record.Same` — two records that say the same;
* `Pairing.Beside`, `Pairing.Alongside` — compilations and states of two runs;
* `Pairing.Beside.declared`, `Pairing.Beside.recorded` — what declaring and recording keep.
-/
import Marginalia.Proofs.DeclarationStanding
import Marginalia.Proofs.ElaborationEffect
import Marginalia.Proofs.RenumberedEvaluation
import Marginalia.Proofs.StepCalls

namespace Marginalia

/-! ### Moving numbers back -/

/-- The numbers behind a start, up to a limit, move back behind an earlier start.  Those between
the two starts make room for them and move up to the limit. -/
def movedBack (start restart limit n : Nat) : Nat :=
  if n ≤ restart then n
  else if n ≤ start then n + (limit - start)
  else if n ≤ limit then n - (start - restart)
  else n

theorem movedBack_injective {start restart limit : Nat} (hback : restart ≤ start)
    (hlimit : start ≤ limit) : Function.Injective (movedBack start restart limit) := by
  intro a b h
  unfold movedBack at h
  -- four ranges that are moved to disjoint ones
  split_ifs at h <;> omega

theorem movedBack_add {start restart limit k : Nat} (hback : restart ≤ start) (hk : 0 < k)
    (hbound : start + k ≤ limit) : movedBack start restart limit (start + k) = restart + k := by
  unfold movedBack
  split_ifs <;> omega

/-- The renumbering that moves numbers back behind an earlier start. -/
def Shift.back (start restart limit : Nat) (hback : restart ≤ start) (hlimit : start ≤ limit) :
    Shift where
  number := movedBack start restart limit
  injective := movedBack_injective hback hlimit
  zero := if_pos (Nat.zero_le restart)
  start := start
  restart := restart
  bound := limit
  apply_add _ hk hbound := movedBack_add hback hk hbound

section

variable {start restart limit n : Nat} {hback : restart ≤ start} {hlimit : start ≤ limit}

theorem Shift.back_below :
    (Shift.back start restart limit hback hlimit).toRenumbering.Below limit := by
  intro n hn
  show movedBack start restart limit n = n
  unfold movedBack
  split_ifs <;> omega

theorem Shift.back_of_le (hn : n ≤ restart) :
    (Shift.back start restart limit hback hlimit).toRenumbering n = n := if_pos hn

end

theorem Compilation.Makes.reaches {c c' : Compilation} (h : c.Makes c') : c.Reaches c' := by
  rw [h.1]
  exact (c.reaches_created c'.created).trans (Compilation.reaches_changed _ c'.changed)

theorem Host.MakesOnly.leavesTable {h : Host} (hhost : h.MakesOnly) : h.LeavesTable :=
  fun f a c => by rw [(hhost f a c).1]

theorem Host.MakesOnly.operates {h : Host} (hhost : h.MakesOnly) : h.Operates :=
  fun f a c => (hhost f a c).reaches

/-- A later state, in which the same kinds can be annotated and no number is given again. -/
structure Compilation.GoesOn (c c' : Compilation) : Prop where
  annotatable : c'.annotatable = c.annotatable
  created : c.created ≤ c'.created

theorem Compilation.Makes.goesOn {c c' : Compilation} (h : c.Makes c') : c.GoesOn c' :=
  ⟨by rw [h.1], h.2⟩

theorem Host.MakesOnly.keeps {m : ModuleSetting} (hhost : m.host.MakesOnly) :
    m.Keeps Compilation.GoesOn where
  evaluated scope :=
    { refl _ := ⟨rfl, le_rfl⟩
      trans h h' := ⟨h'.annotatable.trans h.annotatable, h.created.trans h'.created⟩
      created c := ⟨rfl, c.created.le_succ⟩
      changed _ _ := ⟨rfl, le_rfl⟩
      called f a c :=
        ((Host.MakesOnly.contained (s := m.setting scope) hhost).called f a c).goesOn }
  declared _ _ _ _ := ⟨rfl, le_rfl⟩
  entered i site c c' first := by
    rw [Compilation.elaborate_eq] at first
    split_ifs at first <;> cases first
    exact ⟨rfl, le_rfl⟩
  aliased _ _ _ _ := ⟨rfl, le_rfl⟩

theorem Compilation.goesOn_recordAll (i : Identity) (lvs : List (Location × Value))
    (c : Compilation) : c.GoesOn (Elaboration.recordAll i lvs c) :=
  ⟨recordAll_annotatable i lvs c, (recordAll_created i lvs c).ge⟩

theorem Host.MakesOnly.goesOn_runAll {m : ModuleSetting} (hhost : m.host.MakesOnly)
    (steps : List ElaborationStep) (s : Findings) :
    s.compilation.GoesOn (outcome (Elaboration.runAll m steps) s).2.compilation :=
  hhost.keeps.runAll steps
    (fun _ _ _ _ _ _ => hhost.keeps.visit fun i vs c _ => c.goesOn_recordAll i vs) s

/-! ### Records that say the same -/

/-- What two records say is the same, but for the numbers of the objects in their values. -/
structure SameContent (r r' : TypeTerm × Value × Location) : Prop where
  type : r'.1 = r.1
  structural : r.2.1.isStructural = true
  value : r.2.1.Alike r'.2.1
  location : r'.2.2 = r.2.2

theorem Value.Alike.isStructural_eq {v w : Value} (h : v.Alike w) :
    w.isStructural = v.isStructural := by
  obtain ⟨f, rfl | rfl⟩ := h <;> simp [Value.isStructural]

theorem Value.Alike.written_eq {v w : Value} (h : v.Alike w) : w.written = v.written := by
  obtain ⟨f, rfl | rfl⟩ := h <;> simp

theorem SameContent.symm {r r' : TypeTerm × Value × Location} (h : SameContent r r') :
    SameContent r' r :=
  ⟨h.type.symm, h.value.isStructural_eq.trans h.structural, h.value.symm, h.location.symm⟩

/-- Two records of one type that were written at one place, whose values denote the same
constant. -/
structure Record.Same (r r' : Record) : Prop where
  type : r'.type = r.type
  location : r'.location = r.location
  value : r.value.Alike r'.value
  equivalent : r.value.WellFormed →
    r.value.equivalent r'.value = true ∧ r'.value.equivalent r.value = true

theorem SameContent.same {r r' : Record} (h : SameContent r.content r'.content) : r.Same r' :=
  ⟨h.type, h.location, h.value,
    fun hformed => h.value.equivalent (Value.isConstant_iff.mpr ⟨h.structural, hformed⟩)⟩

/-! ### What two runs have in common -/

/-- Two problems that are reported alike. -/
structure Diagnostic.Alike (d d' : Diagnostic) : Prop where
  kind : d'.kind = d.kind
  message : d'.message = d.message
  location : d'.location = d.location

theorem AnnotationError.Alike.diagnostic {e e' : AnnotationError} (h : e.Alike e') (file : String) :
    Diagnostic.Alike ⟨file, .rejected e⟩ ⟨file, .rejected e'⟩ :=
  ⟨h.kind, h.message, congrArg (fun l => l.getD ⟨file, 0, 0⟩) h.location⟩

/-- What a record says about a value that was written at a place. -/
def recordedAs (lv : Location × Value) : TypeTerm × Value × Location := (lv.2.typeOf, lv.2, lv.1)

/-- A value at a place, with the objects in it renumbered. -/
def renumberAt (f : Renumbering) (lv : Location × Value) : Location × Value :=
  (lv.1, lv.2.renumber f)

theorem recordedAs_renumber (f : Renumbering) {lv : Location × Value}
    (hstored : lv.2.obstacle? = none) :
    SameContent (recordedAs lv) (recordedAs (renumberAt f lv)) where
  type := lv.2.typeOf_renumber f
  structural := by simp [Value.isStructural, recordedAs, hstored]
  value := ⟨f, .inl rfl⟩
  location := rfl

/-- What two runs of a module are to have in common: how what is recorded for a declaration of the
module and what is reported are related, so that what is added alike keeps it; and what is said
about the declarations of other modules. -/
structure Pairing where
  shift : Shift
  records : DeclarationKey → List (TypeTerm × Value × Location) →
    List (TypeTerm × Value × Location) → Prop
  reports : List Diagnostic → List Diagnostic → Prop
  start : DeclarationKey → Standing
  start' : DeclarationKey → Standing
  recorded {key : DeclarationKey} {rs rs' : List (TypeTerm × Value × Location)}
    (h : records key rs rs') (lvs : List (Location × Value))
    (hstored : ∀ lv ∈ lvs, lv.2.obstacle? = none) :
    records key (rs ++ lvs.map recordedAs)
      (rs' ++ (lvs.map (renumberAt shift)).map recordedAs)
  reported {ds ds' : List Diagnostic} {d d' : Diagnostic} (h : reports ds ds')
    (hd : d.Alike d') : reports (ds ++ [d]) (ds' ++ [d'])

namespace Pairing

variable (P : Pairing)

/-- What two runs say about a declaration of the module: it is there in both or in neither, and
was gone through at the same sites. -/
structure SaysAlike (key : DeclarationKey) (x x' : Standing) : Prop where
  declared : x'.declared = x.declared
  visited : x'.visited = x.visited
  records : P.records key x.records x'.records

/-- Two compilations of two runs of a module; nothing was said about declarations of other
modules. -/
structure Beside (module : String) (c c' : Compilation) : Prop where
  sound : c.Sound
  sound' : c'.Sound
  annotatable : c'.annotatable = c.annotatable
  abreast : P.shift.Abreast c c'
  own : ∀ key : DeclarationKey, key.1 = module → P.SaysAlike key (c.about key) (c'.about key)
  apart : ∀ key : DeclarationKey, key.1 ≠ module →
    c.about key = P.start key ∧ c'.about key = P.start' key

/-- Two states of two runs of a module. -/
structure Alongside (module : String) (s s' : Findings) : Prop where
  scope : s'.scope = s.scope.renumber P.shift
  reports : P.reports s.diagnostics s'.diagnostics
  beside : P.Beside module s.compilation s'.compilation

variable {P} {module : String} {c c' c₁ c₁' : Compilation} {s s' : Findings}

/-- The body of a class begun in both runs. -/
theorem Alongside.enter (h : P.Alongside module s s') :
    P.Alongside module { s with scope := s.scope.child } { s' with scope := s'.scope.child } :=
  ⟨(congrArg Scope.child h.scope).trans (s.scope.child_renumber P.shift), h.reports, h.beside⟩

/-- More objects that were made in both runs. -/
theorem Beside.made (h : P.Beside module c c') (hmakes : c.Makes c₁) (hmakes' : c'.Makes c₁')
    (habreast : P.shift.Abreast c₁ c₁') : P.Beside module c₁ c₁' := by
  rw [hmakes.1, hmakes'.1] at *
  exact ⟨h.sound.made _ _, h.sound'.made _ _, h.annotatable, habreast, h.own, h.apart⟩

/-- One declaration of the module of which both runs say more. -/
theorem Beside.update (h : P.Beside module c c') {key : DeclarationKey} (hkey : key.1 = module)
    (hsound : c₁.Sound) (hsound' : c₁'.Sound) (hannotatable : c₁'.annotatable = c₁.annotatable)
    (habreast : P.shift.Abreast c₁ c₁') {x x' : Standing}
    (habout : c₁.about = Function.update c.about key x)
    (habout' : c₁'.about = Function.update c'.about key x')
    (halike : P.SaysAlike key x x') : P.Beside module c₁ c₁' := by
  refine ⟨hsound, hsound', hannotatable, habreast, fun k hk => ?_, fun k hk => ?_⟩
  · rw [habout, habout']
    by_cases hsame : k = key
    · subst hsame
      rw [Function.update_self, Function.update_self]
      exact halike
    · rw [Function.update_of_ne hsame, Function.update_of_ne hsame]
      exact h.own k hk
  · -- a declaration of another module is another declaration
    have hother : k ≠ key := fun hsame => hk (hsame ▸ hkey)
    rw [habout, habout', Function.update_of_ne hother, Function.update_of_ne hother]
    exact h.apart k hk

/-- A declaration of the module in both runs. -/
theorem Beside.declared (h : P.Beside module c c') {kind : Kind} {qualname : String}
    {site : Location} {i i' : Identity}
    (hdeclared : c.declare kind module qualname site = (c₁, i))
    (hdeclared' : c'.declare kind module qualname site = (c₁', i')) : P.Beside module c₁ c₁' := by
  obtain ⟨hc, -⟩ := Compilation.declare_eq hdeclared
  obtain ⟨hc', -⟩ := Compilation.declare_eq hdeclared'
  have hown := h.own (module, qualname, kind) rfl
  refine h.update rfl (h.sound.declare hdeclared) (h.sound'.declare hdeclared') ?_ ?_
    (Compilation.about_declare h.sound hdeclared) (Compilation.about_declare h.sound' hdeclared')
    ⟨rfl, hown.visited, hown.records⟩
  · rw [hc, hc']
    exact h.annotatable
  · rw [hc, hc']
    exact ⟨h.abreast.created, h.abreast.changed⟩

/-- A site of a declaration of the module, gone through in both runs. -/
theorem Beside.entered (h : P.Beside module c c') {key : DeclarationKey} (hkey : key.1 = module)
    {i i' : Identity} (hi : c.identityAt? key = some i) (hi' : c'.identityAt? key = some i')
    (site : Location) :
    P.Beside module (Elaboration.entered c i site) (Elaboration.entered c' i' site) := by
  have hown := h.own key hkey
  exact h.update hkey (h.sound.entered hi site) (h.sound'.entered hi' site) h.annotatable
    ⟨h.abreast.created, h.abreast.changed⟩ (Compilation.about_entered h.sound hi site)
    (Compilation.about_entered h.sound' hi' site)
    ⟨hown.declared, by simp only [hown.visited], hown.records⟩

/-- Values recorded for a declaration of the module in both runs. -/
theorem Beside.recorded {key : DeclarationKey} {i i' : Identity} (h : P.Beside key.1 c c')
    (hi : c.identityAt? key = some i) (hi' : c'.identityAt? key = some i')
    {lvs : List (Location × Value)} (hstored : ∀ lv ∈ lvs, lv.2.obstacle? = none) :
    P.Beside key.1 (Elaboration.recordAll i lvs c)
      (Elaboration.recordAll i' (lvs.map (renumberAt P.shift)) c') := by
  refine h.update rfl (h.sound.recordAll hi lvs) (h.sound'.recordAll hi' _) ?_ ?_
    (Compilation.about_recordAll h.sound hi lvs) (Compilation.about_recordAll h.sound' hi' _)
    ⟨(h.own key rfl).declared, (h.own key rfl).visited,
      P.recorded (h.own key rfl).records lvs hstored⟩
  · rw [Compilation.recordAll_annotatable, Compilation.recordAll_annotatable]
    exact h.annotatable
  · -- recording makes no objects and changes none
    constructor
    · rw [Compilation.recordAll_created, Compilation.recordAll_created]
      exact h.abreast.created
    · rw [Compilation.recordAll_changed, Compilation.recordAll_changed]
      exact h.abreast.changed

end Pairing

end Marginalia

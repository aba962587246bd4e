/-
Calls with their objects numbered anew.

A call of a class or of a method makes of renumbered arguments what it makes of the arguments,
renumbered, and refuses them in the same words.

* `Arguments.renumber` — arguments with the objects in them renumbered;
* `Arguments.fill_renumber`, `Arguments.bindBehind_renumber` — they are brought to the same
  parameters;
* `Value.readAttribute_renumber`, `Value.callBound_renumber` — attributes and methods;
* `Value.callClass_renumber` — classes.
-/
import Marginalia.Proofs.RenumberedOperands

namespace Marginalia

/-! ### Arguments -/

namespace Arguments

open Value (renumber)

/-- Arguments with the objects in them renumbered. -/
def renumber (f : Renumbering) (a : Arguments) : Arguments :=
  ⟨a.positional.map (Value.renumber f), a.named.map fun e => (e.1, e.2.renumber f)⟩

variable (f : Renumbering) (a : Arguments)

@[simp] theorem positional_renumber :
    (a.renumber f).positional = a.positional.map (Value.renumber f) := rfl

@[simp] theorem named_renumber :
    (a.renumber f).named = a.named.map fun e => (e.1, e.2.renumber f) := rfl

@[simp] theorem count_renumber : (a.renumber f).count = a.count := by
  simp [count]

@[simp] theorem lookup_renumber (name : String) (named : List (String × Value)) :
    (named.map fun e => (e.1, e.2.renumber f)).lookup name =
      (named.lookup name).map (Value.renumber f) :=
  lookup_map_snd _ name named

@[simp] theorem onlyPositional_renumber (function : String) :
    (a.renumber f).onlyPositional function =
      (a.onlyPositional function).map (List.map (Value.renumber f)) := by
  simp [onlyPositional]

@[simp] theorem expected_renumber (vs : List Value) (function : String) (least most : Nat) :
    expected (vs.map (Value.renumber f)) function least most = expected vs function least most := by
  simp [expected]

@[simp] theorem takes_renumber (vs : List Value) (function : String) (least most : Nat) :
    takes (vs.map (Value.renumber f)) function least most = takes vs function least most := by
  simp [takes]

@[simp] theorem exactlyOne_renumber (function : String) :
    (a.renumber f).exactlyOne function = (a.exactlyOne function).map (Value.renumber f) := by
  unfold exactlyOne
  rw [onlyPositional_renumber, bind_map_eq, map_bind_eq]
  congr 1
  funext vs
  obtain _ | ⟨v, _ | ⟨w, vs⟩⟩ := vs <;> simp

@[simp] theorem none_renumber (function : String) :
    (a.renumber f).none function = a.none function := by
  unfold none
  rw [onlyPositional_renumber, bind_map_eq]
  congr 1
  funext vs
  obtain _ | ⟨v, vs⟩ := vs <;> simp

@[simp] theorem fill_renumber (function : String) (parameters : List String)
    (required mostPlaces : Nat) :
    (a.renumber f).fill function parameters required mostPlaces =
      (a.fill function parameters required mostPlaces).map
        (List.map (Option.map (Value.renumber f))) := by
  unfold fill
  have hnames : (a.renumber f).named.map Prod.fst = a.named.map Prod.fst := by
    simp [Function.comp_def]
  -- an argument is given by its place or else by its name
  have hargument (p : String × Nat) :
      (a.renumber f).positional[p.2]?.or ((a.renumber f).named.lookup p.1) =
        (a.positional[p.2]?.or (a.named.lookup p.1)).map (Value.renumber f) := by
    simp [Option.map_or]
  simp only [hnames, hargument]
  simp [Function.comp_def]

@[simp] theorem optional_renumber (function : String) (parameters : List String) :
    (a.renumber f).optional function parameters =
      (a.optional function parameters).map (List.map (Option.map (Value.renumber f))) := by
  simp [optional]

theorem placeNamed_renumber (function : String) (parameters : List Parameter) :
    ∀ (named : List (String × Value)) (places : List (Option Value)),
      placeNamed function parameters (named.map fun e => (e.1, e.2.renumber f))
          (places.map (Option.map (Value.renumber f))) =
        (placeNamed function parameters named places).map
          (List.map (Option.map (Value.renumber f)))
  | [], places => by simp [placeNamed]
  | (name, v) :: rest, places => by
    simp only [List.map_cons, placeNamed]
    cases parameters.findIdx? fun p => p.name == name with
    | none => rfl
    | some i =>
      -- the argument is renumbered where it is put
      have hplace := placeNamed_renumber function parameters rest (places.set i (some v))
      rw [List.map_set, Option.map_some] at hplace
      simp only [List.getElem?_map]
      cases places[i]? with
      | none => exact hplace
      | some place => cases place <;> first | exact hplace | rfl

/-- Parameters that have values of their own, in which there are no objects. -/
def Unnumbered (parameters : List Parameter) : Prop :=
  ∀ p ∈ parameters, ∀ f : Renumbering, p.default?.map (Value.renumber f) = p.default?

theorem filled_renumber {parameters : List Parameter} (h : Unnumbered parameters)
    (places : List (Option Value)) :
    filled parameters (places.map (Option.map (Value.renumber f))) =
      (filled parameters places).map fun e => (e.1, e.2.map (Value.renumber f)) := by
  unfold filled
  rw [List.zip_map_right, List.map_map, List.map_map]
  refine List.map_congr_left fun e he => ?_
  have hdefault := h e.1 (List.of_mem_zip he).1 f
  simp [Option.map_or, hdefault]

@[simp] theorem complete_renumber (function : String) (es : List (String × Option Value)) :
    complete function (es.map fun e => (e.1, e.2.map (Value.renumber f))) =
      (complete function es).map (List.map (Value.renumber f)) := by
  have hmissing : missing (es.map fun e => (e.1, e.2.map (Value.renumber f))) = missing es := by
    simp [missing, List.filter_map, Function.comp_def]
  unfold complete
  rw [hmissing]
  simp [List.filterMap_map, List.map_filterMap]

theorem bindBehind_renumber (hidden : Nat) (function : String) {parameters : List Parameter}
    (h : Unnumbered parameters) (aside : List String) :
    (a.renumber f).bindBehind hidden function parameters aside =
      (a.bindBehind hidden function parameters aside).map (List.map (Value.renumber f)) := by
  have hnamed (p : String → Bool) : ((a.renumber f).named.filter fun e => p e.1) =
      (a.named.filter fun e => p e.1).map fun e => (e.1, e.2.renumber f) := by
    simp [List.filter_map, Function.comp_def]
  have hstart : ((List.range parameters.length).map fun i => (a.renumber f).positional[i]?) =
      ((List.range parameters.length).map fun i => a.positional[i]?).map
        (Option.map (Value.renumber f)) := by
    simp [Function.comp_def]
  unfold bindBehind
  simp only [hnamed (fun n => aside.contains n), hnamed (fun n => !aside.contains n), hstart,
    placeNamed_renumber, bind_map_eq, filled_renumber f h]
  simp

theorem bind_renumber (function : String) {parameters : List Parameter}
    (h : Unnumbered parameters) :
    (a.renumber f).bind function parameters =
      (a.bind function parameters).map (List.map (Value.renumber f)) :=
  bindBehind_renumber f a 1 function h []

theorem bindBeside_renumber (function : String) {parameters : List Parameter}
    (h : Unnumbered parameters) (aside : List String) :
    (a.renumber f).bindBeside function parameters aside =
      (a.bindBeside function parameters aside).map (List.map (Value.renumber f)) :=
  bindBehind_renumber f a 1 function h aside

end Arguments

/-! ### Conversions -/

namespace Value

variable (f : Renumbering)

@[simp] theorem requireIndex_renumber (v : Value) :
    (v.renumber f).requireIndex = v.requireIndex := by
  simp [requireIndex]

/-- An integer that is read off a text. -/
theorem readInteger_renumber (base : Nat) (text written : String) :
    (readInteger base text written).map (renumber f) = readInteger base text written := by
  unfold readInteger
  cases Numeral.readInt? base text.toList with
  | none => rfl
  | some r =>
    dsimp only
    split <;> rfl

theorem truncated_renumber (x : Binary64) : (truncated x).map (renumber f) = truncated x := by
  simp [truncated]

theorem toInteger_renumber (v : Value) :
    (v.renumber f).toInteger = v.toInteger.map (renumber f) := by
  unfold toInteger
  simp only [plain_renumber, written_renumber, className_renumber]
  cases v.plain <;> simp [readInteger_renumber, truncated_renumber]

theorem toIntegerIn_renumber (v base : Value) :
    (v.renumber f).toIntegerIn (base.renumber f) = (v.toIntegerIn base).map (renumber f) := by
  unfold toIntegerIn
  simp only [plain_renumber, written_renumber, requireIndex_renumber]
  cases v.plain <;> simp [readInteger_renumber]

theorem badReal_renumber (v : Value) : badReal (v.renumber f) = badReal v := by
  simp [badReal]

theorem toReal_renumber (v : Value) : (v.renumber f).toReal = v.toReal.map (renumber f) := by
  unfold toReal
  simp only [plain_renumber, badReal_renumber, className_renumber]
  cases v.plain with
  | str s =>
    simp only [renumber]
    cases Numeral.readReal? s.toList <;> simp
  | bytes bs | bytearray m bs =>
    simp only [renumber]
    cases Numeral.readReal? (codesText bs).toList <;> simp
  | _ => simp

@[simp] theorem partsFor_renumber (which : String) (v : Value) :
    partsFor which (v.renumber f) = partsFor which v := by
  simp [partsFor]

@[simp] theorem isComplex_renumber (v : Value) : isComplex (v.renumber f) = isComplex v := by
  unfold isComplex
  rw [plain_renumber]
  cases v.plain <;> rfl

theorem toComplex_renumber (v : Value) :
    (v.renumber f).toComplex = v.toComplex.map (renumber f) := by
  unfold toComplex
  simp only [plain_renumber, written_renumber, partsFor_renumber]
  cases v.plain with
  | str s =>
    simp only [renumber]
    cases Numeral.readComplex? s.toList <;> simp
  | _ => simp

@[simp] theorem isText_renumber (v : Value) : (v.renumber f).isText = v.isText := by
  unfold isText
  rw [plain_renumber]
  cases v.plain <;> rfl

theorem toComplexOf_renumber (v w : Value) :
    toComplexOf (v.renumber f) (w.renumber f) = (toComplexOf v w).map (renumber f) := by
  simp [toComplexOf]

@[simp] theorem toByte_renumber (v : Value) : toByte (v.renumber f) = toByte v := by
  simp [toByte]

@[simp] theorem byteItems_renumber (v : Value) : (v.renumber f).byteItems = v.byteItems := by
  have htoByte : toByte ∘ renumber f = toByte := funext (toByte_renumber f)
  unfold byteItems
  rw [items_renumber, className_renumber]
  cases v.items <;> simp [List.mapM_map, htoByte]

@[simp] theorem gatherBytes_renumber (v : Value) : (v.renumber f).gatherBytes = v.gatherBytes := by
  unfold gatherBytes
  simp only [plain_renumber, className_renumber, byteItems_renumber]
  cases v.plain <;> rfl

theorem toBytes_renumber (v : Value) : (v.renumber f).toBytes = v.toBytes.map (renumber f) := by
  unfold toBytes
  rw [isText_renumber, index_renumber, gatherBytes_renumber]
  cases v.index? <;> simp

@[simp] theorem argumentName_renumber (v : Value) :
    (v.renumber f).argumentName = v.argumentName := by
  have h := className_renumber f v
  cases v <;> first | rfl | exact h

@[simp] theorem requireChoice_renumber (function parameter : String) (v : Option Value)
    (otherwise : String) :
    requireChoice function parameter (v.map (renumber f)) otherwise =
      requireChoice function parameter v otherwise := by
  unfold requireChoice
  cases v with
  | none => rfl
  | some v =>
    simp only [Option.map_some, plain_renumber, argumentName_renumber]
    cases v.plain <;> rfl

@[simp] theorem requireName_renumber (function parameter : String) (v : Option Value)
    (otherwise : String) :
    requireName function parameter (v.map (renumber f)) otherwise =
      requireName function parameter v otherwise := by
  simp [requireName]

theorem encodeSource_renumber (source encoding errors : Option Value) (e h : String) :
    encodeSource (source.map (renumber f)) (encoding.map (renumber f)) (errors.map (renumber f))
        e h =
      (encodeSource source encoding errors e h).map (renumber f) := by
  unfold encodeSource
  cases source with
  | none => simp
  | some v =>
    simp only [Option.map_some, plain_renumber]
    cases v.plain <;> simp [toBytes_renumber]

theorem bytesFrom_renumber (a : Arguments) :
    bytesFrom (a.renumber f) = (bytesFrom a).map (renumber f) := by
  unfold bytesFrom
  rw [Arguments.optional_renumber, bind_map_eq, map_bind_eq]
  refine bind_congr fun vs => ?_
  obtain _ | ⟨source, _ | ⟨encoding, _ | ⟨errors, _ | _⟩⟩⟩ := vs <;>
    simp [encodeSource_renumber]

@[simp] theorem toText_renumber (v : Value) : (v.renumber f).toText = v.toText := by
  simp [toText]

theorem decodeSource_renumber (v : Value) (e h : String) :
    (v.renumber f).decodeSource e h = (v.decodeSource e h).map (renumber f) := by
  unfold decodeSource
  simp only [plain_renumber, className_renumber]
  cases v.plain <;> simp

theorem textFrom_renumber (a : Arguments) :
    textFrom (a.renumber f) = (textFrom a).map (renumber f) := by
  unfold textFrom
  rw [Arguments.optional_renumber, bind_map_eq, map_bind_eq]
  refine bind_congr fun vs => ?_
  obtain _ | ⟨source, _ | ⟨encoding, _ | ⟨errors, _ | _⟩⟩⟩ := vs
  case cons.cons.cons.nil => cases source <;> simp [decodeSource_renumber]
  all_goals simp

theorem integerFrom_renumber (a : Arguments) :
    integerFrom (a.renumber f) = (integerFrom a).map (renumber f) := by
  unfold integerFrom
  rw [Arguments.optional_renumber, bind_map_eq, map_bind_eq]
  refine bind_congr fun vs => ?_
  obtain _ | ⟨v, _ | ⟨base, _ | _⟩⟩ := vs
  case cons.cons.nil => cases v <;> cases base <;> simp [toInteger_renumber, toIntegerIn_renumber]
  all_goals simp

theorem complexFrom_renumber (a : Arguments) :
    complexFrom (a.renumber f) = (complexFrom a).map (renumber f) := by
  -- without a real part, the imaginary part is added to zero
  have himaginary := toComplexOf_renumber f (int 0)
  unfold complexFrom
  rw [Arguments.optional_renumber, bind_map_eq, map_bind_eq]
  refine bind_congr fun vs => ?_
  obtain _ | ⟨v, _ | ⟨w, _ | _⟩⟩ := vs
  case cons.cons.nil =>
    cases v <;> cases w <;> simp_all [toComplex_renumber, toComplexOf_renumber]
  all_goals simp

@[simp] theorem oneOrNone_renumber (a : Arguments) (function : String) :
    oneOrNone (a.renumber f) function = (oneOrNone a function).map (Option.map (renumber f)) := by
  simp [oneOrNone]

theorem toFrozen_renumber (v : Value) : (v.renumber f).toFrozen = v.toFrozen.map (renumber f) := by
  unfold toFrozen
  simp

theorem convertOne_renumber (a : Arguments) (function : String) {default : Value}
    {convert : Value → Except Fault Value} (hdefault : default.renumber f = default)
    (hconvert : ∀ v, convert (v.renumber f) = (convert v).map (renumber f)) :
    convertOne (a.renumber f) function default convert =
      (convertOne a function default convert).map (renumber f) := by
  unfold convertOne
  rw [oneOrNone_renumber, bind_map_eq, map_bind_eq]
  refine bind_congr fun v => ?_
  cases v with
  | none => simp [hdefault]
  | some v => exact hconvert v

theorem callBuiltin_renumber (b : Builtin) (a : Arguments) :
    callBuiltin? b (a.renumber f) = (callBuiltin? b a).map (Except.map (renumber f)) := by
  unfold callBuiltin?
  cases b with
  | int => exact congrArg some (integerFrom_renumber f a)
  | complex => exact congrArg some (complexFrom_renumber f a)
  | str => exact congrArg some (textFrom_renumber f a)
  | bytes => exact congrArg some (bytesFrom_renumber f a)
  | bool => exact congrArg some (convertOne_renumber f a _ rfl fun v => by simp)
  | float => exact congrArg some (convertOne_renumber f a _ (by simp) (toReal_renumber f))
  | tuple => exact congrArg some (convertOne_renumber f a _ rfl fun v => by simp)
  | frozenset => exact congrArg some (convertOne_renumber f a _ rfl (toFrozen_renumber f))
  | _ => rfl

/-! ### Attributes -/

@[simp] theorem builtinClass_renumber (v : Value) :
    (v.renumber f).builtinClass? = v.builtinClass? := by
  simp [builtinClass?]

@[simp] theorem realPart_renumber (v : Value) (x : Binary64) :
    (v.renumber f).realPart x = (v.realPart x).renumber f := by
  unfold realPart
  rw [plain_renumber]
  cases v.plain <;> simp

@[simp] theorem numberPart_renumber (v : Value) (name : String) :
    (v.renumber f).numberPart? name = (v.numberPart? name).map (renumber f) := by
  unfold numberPart?
  rw [quantity_renumber]
  split <;> simp

@[simp] theorem fieldNamed_renumber (name : String) : ∀ (ns : List String) (vs : List Value),
    fieldNamed name ns (vs.map (renumber f)) = (fieldNamed name ns vs).map (renumber f)
  | [], _ | _ :: _, [] => by simp [fieldNamed]
  | n :: ns, v :: vs => by
    simp only [List.map_cons, fieldNamed, fieldNamed_renumber name ns vs]
    split <;> rfl

theorem memberPart_renumber (c : EnumClass) (d : Datum) (name : String) :
    (memberPart? c d name).map (renumber f) = memberPart? c d name := by
  unfold memberPart?
  split
  · cases c.nameOf? d <;> rfl
  · simp
  · simp [Function.comp_def]

theorem inheritedPart_renumber (t : TypeTerm) (name : String) :
    (inheritedPart? t name).map (renumber f) = inheritedPart? t name := by
  unfold inheritedPart?
  cases rootClass? t with
  | none => rfl
  | some b =>
    simp only [Option.bind_some]
    split
    · rfl
    · split <;> rfl

theorem classPart_renumber : ∀ (t : TypeTerm) (name : String),
    (classPart? t name).map (renumber f) = classPart? t name
  | .enumeration c, name => by
    simp [classPart?, inheritedPart_renumber, Option.map_or, Function.comp_def]
  | .record c, name => by
    rw [classPart?]
    cases c.fields.find? fun g => g.name == name with
    | none => rfl
    | some g => simp [Function.comp_def]
  | .derived c, name => by
    rw [classPart?]
    split
    · rfl
    · exact inheritedPart_renumber f _ name
  | .generic t _ _, name => by
    rw [classPart?]
    exact classPart_renumber t name
  | .builtin _, name | .object _, name | .named .., name | .aliased .., name
  | .distinct .., name | .annotated .., name | .union _, name | .function _, name => by
    simp only [classPart?, inheritedPart_renumber]

@[simp] theorem ownPart_renumber (v : Value) (name : String) :
    (v.renumber f).ownPart? name = (v.ownPart? name).map (renumber f) := by
  cases v with
  | member c d => exact (memberPart_renumber f c d name).symm
  | type t => exact (classPart_renumber f t name).symm
  | record c m vs => simp [ownPart?]
  | space ns vs => simp [ownPart?]
  | derived c v =>
    cases v with
    | tuple vs => cases h : c.fieldNames <;> simp [ownPart?, h]
    | _ => simp [ownPart?]
  | _ => simp [ownPart?]

@[simp] theorem readMethod_renumber (v : Value) (name : String) :
    (v.renumber f).readMethod name = (v.readMethod name).map (renumber f) := by
  unfold readMethod
  rw [builtinClass_renumber, className_renumber]
  cases v.builtinClass? <;> simp

/-- An attribute of a renumbered value is that of the value, renumbered. -/
theorem readAttribute_renumber (v : Value) (name : String) :
    (v.renumber f).readAttribute name = (v.readAttribute name).map (renumber f) := by
  have hmethod := readMethod_renumber f v name
  unfold readAttribute
  rw [ownPart_renumber, numberPart_renumber, ← Option.map_or]
  cases (v.ownPart? name).or (v.numberPart? name) with
  | some w => rfl
  | none =>
    cases v with
    | type t =>
      -- classes have one method of their own
      have hown (m : Fault) : (if t.isClass && name == classMethod then
          Except.ok (method (type t) name) else .error m) =
            (if t.isClass && name == classMethod then
              Except.ok (method (type t) name) else .error m).map (renumber f) := by
        split <;> rfl
      cases t <;> first | rfl | exact hown _
    | _ => exact hmethod

/-! ### Methods -/

@[simp] theorem getD_renumber (v : Option Value) :
    (v.map (renumber f)).getD nothing = (v.getD nothing).renumber f := by
  cases v <;> rfl

@[simp] theorem searchBound_renumber (v : Option Value) (otherwise length : Nat) :
    searchBound (v.map (renumber f)) otherwise length = searchBound v otherwise length := by
  simp [searchBound, slicePart_renumber]

@[simp] theorem searchBounds_renumber (vs : List Value) (length : Nat) :
    searchBounds (vs.map (renumber f)) length = searchBounds vs length := by
  simp [searchBounds]

@[simp] theorem requireText_renumber (v : Value) (otherwise : String) :
    requireText (v.renumber f) otherwise = requireText v otherwise := by
  unfold requireText
  rw [plain_renumber, className_renumber]
  cases v.plain <;> rfl

@[simp] theorem requireArgument_renumber (function : String) (place : Nat) (v : Value) :
    requireArgument function place (v.renumber f) = requireArgument function place v := by
  unfold requireArgument
  rw [plain_renumber, argumentName_renumber]
  cases v.plain <;> rfl

@[simp] theorem ofChars_renumber (cs : List Char) : (ofChars cs).renumber f = ofChars cs := rfl

@[simp] theorem findIn_renumber (c : Callee) (cs : List Char) (a : Arguments) :
    findIn c cs (a.renumber f) = findIn c cs a := by
  simp [findIn]

theorem countIn_renumber (c : Callee) (cs : List Char) (a : Arguments) :
    countIn c cs (a.renumber f) = (countIn c cs a).map (renumber f) := by
  simp [countIn]

@[simp] theorem startsWithAny_renumber (here : List Char → Bool) (vs : List Value) :
    startsWithAny here (vs.map (renumber f)) = startsWithAny here vs := by
  induction vs with
  | nil => rfl
  | cons v vs ih => simp [startsWithAny, ih]

theorem startsWith_renumber (c : Callee) (cs : List Char) (a : Arguments) :
    startsWith c cs (a.renumber f) = (startsWith c cs a).map (renumber f) := by
  simp only [startsWith, Arguments.onlyPositional_renumber, bind_map_eq, map_bind_eq,
    Arguments.takes_renumber, searchBounds_renumber, List.getElem?_map, getD_renumber,
    plain_renumber, requireText_renumber]
  refine bind_congr fun vs => bind_congr fun _ => bind_congr fun _ => ?_
  cases (vs[0]?.getD nothing).plain <;> simp

@[simp] theorem limitOf_renumber (v : Option Value) : limitOf (v.map (renumber f)) = limitOf v := by
  cases v <;> simp [limitOf]

theorem splitText_renumber (cs : List Char) (a : Arguments) :
    splitText cs (a.renumber f) = (splitText cs a).map (renumber f) := by
  unfold splitText
  rw [Arguments.optional_renumber, bind_map_eq, map_bind_eq]
  refine bind_congr fun vs => ?_
  obtain _ | ⟨sep, _ | ⟨limit, _ | _⟩⟩ := vs
  case cons.cons.nil =>
    simp only [List.map_cons, List.map_nil, limitOf_renumber, getD_renumber, plain_renumber,
      className_renumber, map_bind_eq]
    refine bind_congr fun n => ?_
    cases (sep.getD nothing).plain <;> simp [Function.comp_def]
  all_goals simp

@[simp] theorem joinPart_renumber (i : Nat) (v : Value) :
    joinPart i (v.renumber f) = joinPart i v := by
  unfold joinPart
  rw [plain_renumber, className_renumber]
  cases v.plain <;> rfl

@[simp] theorem joinParts_renumber (i : Nat) (vs : List Value) :
    joinParts i (vs.map (renumber f)) = joinParts i vs := by
  induction vs generalizing i with
  | nil => rfl
  | cons v vs ih => simp [joinParts, ih]

theorem joinTexts_renumber (c : Callee) (cs : List Char) (a : Arguments) :
    joinTexts c cs (a.renumber f) = (joinTexts c cs a).map (renumber f) := by
  unfold joinTexts
  rw [Arguments.exactlyOne_renumber, bind_map_eq, map_bind_eq]
  refine bind_congr fun v => ?_
  rw [items_renumber]
  cases v.items <;> simp

theorem replaceText_renumber (c : Callee) (cs : List Char) (a : Arguments) :
    replaceText c cs (a.renumber f) = (replaceText c cs a).map (renumber f) := by
  simp [replaceText]

theorem stripText_renumber (c : Callee) (cs : List Char) (a : Arguments) :
    stripText c cs (a.renumber f) = (stripText c cs a).map (renumber f) := by
  simp only [stripText, Arguments.onlyPositional_renumber, bind_map_eq, map_bind_eq,
    Arguments.expected_renumber, List.getElem?_map, getD_renumber, plain_renumber]
  refine bind_congr fun vs => bind_congr fun _ => ?_
  cases (vs[0]?.getD nothing).plain <;> simp

theorem partitionText_renumber (c : Callee) (v : Value) (cs : List Char) (a : Arguments) :
    partitionText c (v.renumber f) cs (a.renumber f) =
      (partitionText c v cs a).map (renumber f) := by
  simp only [partitionText, Arguments.exactlyOne_renumber, bind_map_eq, map_bind_eq,
    requireText_renumber]
  refine bind_congr fun w => bind_congr fun sep => ?_
  cases Search.cut? sep cs <;> simp

@[simp] theorem codecNames_renumber (function : String) (a : Arguments) :
    codecNames function (a.renumber f) = codecNames function a := by
  unfold codecNames
  rw [Arguments.optional_renumber, bind_map_eq]
  congr 1
  funext vs
  obtain _ | ⟨e, _ | ⟨h, _ | _⟩⟩ := vs <;> simp

theorem indexIn_renumber (c : Callee) (cs : List Char) (a : Arguments) :
    indexIn c cs (a.renumber f) = (indexIn c cs a).map (renumber f) := by
  unfold indexIn
  rw [findIn_renumber, map_bind_eq]
  refine bind_congr fun i => ?_
  cases i <;> rfl

theorem encodeText_renumber (s : String) (a : Arguments) :
    encodeText s (a.renumber f) = (encodeText s a).map (renumber f) := by
  simp [encodeText]

theorem callTextMethod_renumber (c : Callee) (v : Value) (s : String) (a : Arguments) :
    callTextMethod? c (v.renumber f) s (a.renumber f) =
      (callTextMethod? c v s a).map (Except.map (renumber f)) := by
  unfold callTextMethod?
  split
  · simp
  · simp
  · exact congrArg some (stripText_renumber f c s.toList a)
  · exact congrArg some (splitText_renumber f s.toList a)
  · exact congrArg some (joinTexts_renumber f c s.toList a)
  · exact congrArg some (replaceText_renumber f c s.toList a)
  · exact congrArg some (startsWith_renumber f c s.toList a)
  · -- the place that is found is a number, and so is what stands for none
    simp
  · exact congrArg some (indexIn_renumber f c s.toList a)
  · exact congrArg some (countIn_renumber f c s.toList a)
  · exact congrArg some (partitionText_renumber f c v s.toList a)
  · exact congrArg some (encodeText_renumber f s a)
  · rfl

/-- The size of groups is no object. -/
@[simp] theorem groupSize_renumber (v : Option Value) :
    groupSize (v.map (renumber f)) = groupSize v := by
  cases v <;> simp [groupSize]

@[simp] theorem itemsFault_renumber (noLength : Fault) (items : Except Fault (List Value)) :
    itemsFault noLength (items.map (List.map (renumber f))) = itemsFault noLength items := by
  cases items <;> simp [itemsFault]

@[simp] theorem separatorFault_renumber (v : Value) :
    (v.renumber f).separatorFault = v.separatorFault := by
  unfold separatorFault
  rw [plain_renumber, className_renumber]
  generalize v.plain = w
  have hitems := fun e => itemsFault_renumber f e w.items
  rw [← items_renumber] at hitems
  -- a generic class is refused before its items are asked for
  cases w with
  | type t => cases t <;> rfl
  | _ => exact hitems _

@[simp] theorem separator_renumber (v : Value) : (v.renumber f).separator = v.separator := by
  unfold separator
  rw [plain_renumber, separatorFault_renumber]
  cases v.plain <;> rfl

theorem hexOf_renumber (bs : List UInt8) (a : Arguments) :
    hexOf bs (a.renumber f) = (hexOf bs a).map (renumber f) := by
  unfold hexOf
  rw [Arguments.optional_renumber, bind_map_eq, map_bind_eq]
  refine bind_congr fun vs => ?_
  obtain _ | ⟨sep, _ | ⟨size, _ | _⟩⟩ := vs
  case cons.cons.nil => cases sep <;> simp
  all_goals simp

theorem decodeBytes_renumber (bs : List UInt8) (a : Arguments) :
    decodeBytes bs (a.renumber f) = (decodeBytes bs a).map (renumber f) := by
  simp [decodeBytes]

theorem callBytesMethod_renumber (bs : List UInt8) (name : String) (a : Arguments) :
    callBytesMethod? bs name (a.renumber f) =
      (callBytesMethod? bs name a).map (Except.map (renumber f)) := by
  unfold callBytesMethod?
  split
  · exact congrArg some (hexOf_renumber f bs a)
  · exact congrArg some (decodeBytes_renumber f bs a)
  · rfl

@[simp] theorem itemBound_renumber (v : Option Value) (otherwise length : Nat) :
    itemBound (v.map (renumber f)) otherwise length = itemBound v otherwise length := by
  cases v <;> simp [itemBound]

theorem countItems_renumber (c : Callee) (vs : List Value) (a : Arguments) :
    countItems c (vs.map (renumber f)) (a.renumber f) =
      (countItems c vs a).map (renumber f) := by
  simp [countItems, List.filter_map, Function.comp_def]

theorem indexItem_renumber (c : Callee) (vs : List Value) (a : Arguments) :
    indexItem c (vs.map (renumber f)) (a.renumber f) = (indexItem c vs a).map (renumber f) := by
  simp only [indexItem, Arguments.onlyPositional_renumber, List.length_map, ← List.map_take,
    ← List.map_drop, List.findIdx?_map, Function.comp_def, bind_map_eq,
    Arguments.expected_renumber, List.getElem?_map, itemBound_renumber, getD_renumber,
    matching_renumber, map_bind_eq]
  refine bind_congr fun given => bind_congr fun _ => bind_congr fun start =>
    bind_congr fun stop => ?_
  split <;> rfl

theorem callTupleMethod_renumber (c : Callee) (vs : List Value) (a : Arguments) :
    callTupleMethod? c (vs.map (renumber f)) (a.renumber f) =
      (callTupleMethod? c vs a).map (Except.map (renumber f)) := by
  unfold callTupleMethod?
  split
  · exact congrArg some (countItems_renumber f c vs a)
  · exact congrArg some (indexItem_renumber f c vs a)
  · rfl

theorem getEntry_renumber (c : Callee) (ks vs : List Value) (a : Arguments) :
    getEntry c (ks.map (renumber f)) (vs.map (renumber f)) (a.renumber f) =
      (getEntry c ks vs a).map (renumber f) := by
  simp [getEntry, lookupKey_renumber]

theorem callMappingMethod_renumber (c : Callee) (ks vs : List Value) (a : Arguments) :
    callMappingMethod? c (ks.map (renumber f)) (vs.map (renumber f)) (a.renumber f) =
      (callMappingMethod? c ks vs a).map (Except.map (renumber f)) := by
  unfold callMappingMethod?
  split
  · exact congrArg some (getEntry_renumber f c ks vs a)
  · rfl

theorem integerFromBytes_renumber (a : Arguments) :
    integerFromBytes (a.renumber f) = integerFromBytes a := by
  unfold integerFromBytes
  rw [Arguments.fill_renumber, bind_map_eq]
  refine bind_congr fun vs => ?_
  obtain _ | ⟨source, _ | ⟨order, _ | ⟨signed, _ | _⟩⟩⟩ := vs
  case cons.cons.cons.nil =>
    cases source with
    | none => rfl
    | some v =>
      cases signed <;> simp
  all_goals simp

theorem callNumberMethod_renumber (c : Callee) (q : Quantity) (v : Value) (a : Arguments) :
    callNumberMethod? c q (v.renumber f) (a.renumber f) =
      (callNumberMethod? c q v a).map (Except.map (renumber f)) := by
  unfold callNumberMethod?
  split <;> simp

/-- A method makes of renumbered values what it makes of the values, renumbered. -/
theorem callMethod_renumber (v : Value) (c : Callee) (a : Arguments) :
    callMethod? (v.renumber f) c (a.renumber f) =
      (callMethod? v c a).map (Except.map (renumber f)) := by
  have hquantity (w : Value) :
      ((w.renumber f).quantity?.bind fun q =>
          callNumberMethod? c q (w.renumber f) (a.renumber f)) =
        (w.quantity?.bind fun q => callNumberMethod? c q w a).map
          (Except.map (renumber f)) := by
    rw [quantity_renumber]
    cases w.quantity? with
    | some q => exact callNumberMethod_renumber f c q w a
    | none => rfl
  unfold callMethod?
  rw [plain_renumber]
  generalize v.plain = w
  specialize hquantity w
  cases w with
  | str s => exact callTextMethod_renumber f c v s a
  | bytes bs => exact callBytesMethod_renumber f bs c.name a
  | tuple vs => simpa [callMethod?] using callTupleMethod_renumber f c vs a
  | dict m ks vs => simpa [callMethod?] using callMappingMethod_renumber f c ks vs a
  | _ => exact hquantity

/-- A method read off a class is carried out on its first argument, renumbered. -/
theorem receiver_renumber (v : Value) (name : String) (a : Arguments) :
    receiver (v.renumber f) name (a.renumber f) =
      (receiver v name a).map fun r => (r.1.renumber f, r.2.1, r.2.2.renumber f) := by
  have hself (w : Value) : (Except.ok (w.renumber f, ⟨(w.renumber f).className, name, true⟩,
      a.renumber f) : Except Fault (Value × Callee × Arguments)) =
        (Except.ok (w, ⟨w.className, name, true⟩, a) : Except Fault _).map
          fun r => (r.1.renumber f, r.2.1, r.2.2.renumber f) := by
    rw [className_renumber]
    rfl
  cases v with
  | type t =>
    obtain ⟨positional, named⟩ := a
    cases positional with
    | nil => rfl
    | cons v vs =>
      simp only [receiver, Arguments.renumber, List.map_cons, renumber, typeOf_renumber,
        className_renumber]
      split <;> rfl
  | _ => exact hself _

/-! ### Classes -/

theorem recordParameters_unnumbered (c : RecordClass) :
    Arguments.Unnumbered (recordParameters c) := by
  intro p hp f
  obtain ⟨g, -, rfl⟩ := List.mem_map.mp hp
  simp [Function.comp_def]

section Accepted

variable {accepts : RecordClass → List Value → Except Fault Unit}
  (haccepts : ∀ c vs, accepts c (vs.map (renumber f)) = accepts c vs)
include haccepts

theorem recordFrom_renumber (c : RecordClass) (a : Arguments) :
    recordFrom c accepts (a.renumber f) = (recordFrom c accepts a).map (renumber f) := by
  unfold recordFrom
  rw [Arguments.bind_renumber f a _ (recordParameters_unnumbered c)]
  simp [haccepts]

end Accepted

theorem bitsMember_renumber (c : EnumClass) (n : Int) :
    (bitsMember c n).map (renumber f) = bitsMember c n := by
  simp [bitsMember]

@[simp] theorem memberContent_renumber (c : EnumClass) (v : Value) :
    memberContent? c (v.renumber f) = memberContent? c v := by
  cases v <;> rfl

theorem numberedMember_renumber (c : EnumClass) (v : Value) :
    numberedMember c (v.renumber f) = (numberedMember c v).map (renumber f) := by
  have hrefused : refuseMember c (v.renumber f) = (refuseMember c v).map (renumber f) := by
    simp [refuseMember]
  unfold numberedMember
  simp only [plain_renumber]
  cases c.flavour with
  | bits => cases v.plain <;> first | exact hrefused | exact (bitsMember_renumber f c _).symm
  | _ => exact hrefused

theorem memberOf_renumber (c : EnumClass) (v : Value) :
    memberOf c (v.renumber f) = (memberOf c v).map (renumber f) := by
  -- the contents of members are data, in which no object has a number
  have hfound (m : String × Datum) :
      equals m.2.toValue (v.renumber f) = equals m.2.toValue v := by
    rw [← toValue_renumber f, equals_renumber, toValue_renumber]
  unfold memberOf
  simp only [memberContent_renumber, hfound]
  cases memberContent? c v with
  | some d => rfl
  | none =>
    cases c.canonical.find? fun m => equals m.2.toValue v with
    | some m => rfl
    | none => exact numberedMember_renumber f c v

/-- The parameters of a call that makes a member have no objects for values. -/
theorem memberParameters_unnumbered :
    Arguments.Unnumbered [⟨"value", none⟩, ⟨"names", some nothing⟩] := by
  simp [Arguments.Unnumbered]

theorem memberFrom_renumber (c : EnumClass) (a : Arguments) :
    memberFrom c (a.renumber f) = (memberFrom c a).map (renumber f) := by
  unfold memberFrom
  rw [Arguments.bindBeside_renumber f a _ memberParameters_unnumbered, bind_map_eq, map_bind_eq]
  refine bind_congr fun vs => ?_
  obtain _ | ⟨v, _ | ⟨w, _ | ⟨u, vs⟩⟩⟩ := vs
  case cons.cons.nil => cases w <;> simp [memberOf_renumber]
  all_goals simp

theorem fromBytes_renumber (t : TypeTerm) (a : Arguments) :
    fromBytes t (a.renumber f) = (fromBytes t a).map (renumber f) := by
  unfold fromBytes
  rw [integerFromBytes_renumber, map_bind_eq]
  refine bind_congr fun n => ?_
  have h := fun c => memberOf_renumber f c (int n)
  split <;> first | rfl | exact h _

theorem callOwnMethod_renumber (t : TypeTerm) (name : String) (a : Arguments) :
    callOwnMethod? t name (a.renumber f) =
      (callOwnMethod? t name a).map (Except.map (renumber f)) := by
  unfold callOwnMethod?
  split
  · exact congrArg some (fromBytes_renumber f t a)
  · rfl

/-- A method that is called makes of renumbered values what it makes of the values,
renumbered. -/
theorem callBound_renumber (v : Value) (name : String) (a : Arguments) :
    callBound? (v.renumber f) name (a.renumber f) =
      (callBound? v name a).map (Except.map (renumber f)) := by
  unfold callBound?
  split
  · have hown : callOwnMethod? (v.renumber f).typeOf name (a.renumber f) =
        (callOwnMethod? v.typeOf name a).map (Except.map (renumber f)) := by
      rw [typeOf_renumber]
      exact callOwnMethod_renumber f v.typeOf name a
    cases v with
    | type t => exact callOwnMethod_renumber f t name a
    | _ => exact hown
  · rw [receiver_renumber]
    cases receiver v name a with
    | error e => rfl
    | ok r => exact callMethod_renumber f r.1 r.2.1 r.2.2

/-- Derived tuples are called with the names of their items. -/
theorem itemParameters_unnumbered (ns : List String) :
    Arguments.Unnumbered (ns.map fun n => ⟨n, none⟩) := by
  intro p hp f
  obtain ⟨n, -, rfl⟩ := List.mem_map.mp hp
  rfl

theorem namedTupleFrom_renumber (c : DerivedClass) (ns : List String) (a : Arguments) :
    namedTupleFrom c ns (a.renumber f) = (namedTupleFrom c ns a).map (renumber f) := by
  unfold namedTupleFrom
  rw [Arguments.bind_renumber f a _ (itemParameters_unnumbered ns)]
  simp

theorem objectFrom_renumber (c : ObjectClass) (a : Arguments) :
    objectFrom c (a.renumber f) = (objectFrom c a).map (renumber f) := by
  simp [objectFrom]

/-- A class that is called makes of renumbered values what it makes of the values, renumbered. -/
theorem callClass_renumber {accepts : RecordClass → List Value → Except Fault Unit}
    (haccepts : ∀ c vs, accepts c (vs.map (renumber f)) = accepts c vs) :
    ∀ (t : TypeTerm) (a : Arguments),
      callClass? accepts t (a.renumber f) =
        (callClass? accepts t a).map (Except.map (renumber f))
  | .builtin b, a => callBuiltin_renumber f b a
  | .generic t _ _, a => by
    rw [callClass?, callClass?]
    exact callClass_renumber haccepts t a
  | .record c, a => congrArg some (recordFrom_renumber f haccepts c a)
  | .enumeration c, a => congrArg some (memberFrom_renumber f c a)
  | .derived c, a => by
    rw [callClass?, callClass?]
    cases c.fieldNames with
    | some ns => exact congrArg some (namedTupleFrom_renumber f c ns a)
    | none => simp [callBuiltin_renumber, Function.comp_def]
  | .object c, a => congrArg some (objectFrom_renumber f c a)
  | .named .., _ | .aliased .., _ | .distinct .., _ | .annotated .., _ | .union _, _
  | .function _, _ => by simp [callClass?]

end Value

end Marginalia

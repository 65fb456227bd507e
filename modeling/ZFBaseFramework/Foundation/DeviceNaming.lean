import Mathlib.Tactic
import ZFBaseFramework.Foundation.DeviceInfo

/-!
# Which identifiers are named soundly

The second lookup cuts off exactly one character. It finds the family key of an
identifier only if the minor version has one digit, it takes a full key for a family when
an identifier has one more character, and when it fails the shortened text is returned in
place of the identifier.
-/

namespace ZFBaseFramework

namespace ZFDeviceInfo

def IsDigit (unit : unichar) : Prop := 0x30 ≤ unit ∧ unit ≤ 0x39

/-- The identifier is a key that ends in a comma, and a minor version in digits. -/
structure InFamily (machine family minor : List unichar) : Prop where
  isKey : (objectForKey family).isSome
  comma : family.getLast? = some 0x2C
  nonempty : minor ≠ []
  digits : ∀ unit ∈ minor, IsDigit unit
  parts : machine = family ++ minor

structure NamedSoundly (machine : List unichar) (returned : Option (List unichar)) : Prop where
  listed : ∀ deviceName, objectForKey machine = some deviceName →
    returned = some (codeUnits deviceName)
  family : objectForKey machine = none → ∀ family minor, InFamily machine family minor →
    ∀ deviceName, objectForKey family = some deviceName →
      returned = some (codeUnits deviceName)
  other : objectForKey machine = none → (¬∃ family minor, InFamily machine family minor) →
    returned = some machine

/-- The identifier is a key, or the key of a family and one digit. -/
def Recognised (machine : List unichar) : Prop :=
  (objectForKey machine).isSome ∨ ∃ family digit, InFamily machine family [digit]

/-! ### The table -/

theorem name_length_pos : ∀ entry ∈ deviceDict, 0 < entry.2.length := by
  decide +kernel

theorem not_key_prefix_name :
    ∀ entry ∈ deviceDict, ¬(codeUnits entry.1).isPrefixOf (codeUnits entry.2) := by
  decide +kernel

/-- No key extends the key of a family. -/
theorem family_key_eq_of_extends : ∀ family ∈ deviceDict,
    (codeUnits family.1).getLast? = some 0x2C → ∀ entry ∈ deviceDict,
      (codeUnits family.1).isPrefixOf (codeUnits entry.1) → family.1 = entry.1 := by
  decide +kernel

theorem objectForKey_nil : objectForKey [] = none := by
  decide +kernel

theorem exists_entry_of_objectForKey {key : List unichar} {deviceName : String}
    (found : objectForKey key = some deviceName) :
    ∃ entry ∈ deviceDict, codeUnits entry.1 = key ∧ entry.2 = deviceName := by
  rcases Option.map_eq_some_iff.mp found with ⟨entry, entryFound, named⟩
  have matched := List.find?_some entryFound
  exact ⟨entry, List.mem_of_find?_eq_some entryFound, by simpa using matched, named⟩

theorem listedName_eq (key : List unichar) : listedName key = objectForKey key := by
  rw [listedName]
  cases found : objectForKey key with
  | none => rfl
  | some deviceName =>
      rcases exists_entry_of_objectForKey found with ⟨entry, entryMem, -, rfl⟩
      simp [Option.filter, name_length_pos entry entryMem]

theorem not_prefix_deviceName {key : List unichar} {deviceName : String}
    (found : objectForKey key = some deviceName) : ¬key <+: codeUnits deviceName := by
  rcases exists_entry_of_objectForKey found with ⟨entry, entryMem, rfl, rfl⟩
  intro isPrefix
  exact not_key_prefix_name entry entryMem (List.isPrefixOf_iff_prefix.mpr isPrefix)

theorem eq_of_family_extends {family key : List unichar} (isKey : (objectForKey family).isSome)
    (comma : family.getLast? = some 0x2C) (keyIsKey : (objectForKey key).isSome)
    (isPrefix : family <+: key) : family = key := by
  rcases Option.isSome_iff_exists.mp isKey with ⟨familyName, familyFound⟩
  rcases Option.isSome_iff_exists.mp keyIsKey with ⟨deviceName, keyFound⟩
  rcases exists_entry_of_objectForKey familyFound with ⟨familyEntry, familyMem, rfl, -⟩
  rcases exists_entry_of_objectForKey keyFound with ⟨entry, entryMem, rfl, -⟩
  rw [family_key_eq_of_extends familyEntry familyMem comma entry entryMem
    (List.isPrefixOf_iff_prefix.mpr isPrefix)]

namespace InFamily

variable {initial family minor : List unichar} {last : unichar}

/-- What is left of the identifier without its last digit still starts with the family. -/
theorem prefix_initial (inFamily : InFamily (initial ++ [last]) family minor) :
    family <+: initial := by
  rcases (List.eq_nil_or_concat minor).resolve_left inFamily.nonempty with ⟨rest, digit, rfl⟩
  have parts := inFamily.parts
  rw [List.concat_eq_append, ← List.append_assoc] at parts
  exact ⟨rest, (List.append_inj_left' parts rfl).symm⟩

/-- When one character less than the identifier is a key, that is the family. -/
theorem eq_initial (inFamily : InFamily (initial ++ [last]) family minor)
    (isKey : (objectForKey initial).isSome) : family = initial ∧ minor = [last] := by
  have same := eq_of_family_extends inFamily.isKey inFamily.comma isKey inFamily.prefix_initial
  have parts := inFamily.parts
  rw [same] at parts
  exact ⟨same, (List.append_cancel_left parts).symm⟩

end InFamily

theorem not_inFamily_nil (family minor : List unichar) : ¬InFamily [] family minor := by
  intro inFamily
  have parts := inFamily.parts
  exact inFamily.nonempty (List.append_eq_nil_iff.mp parts.symm).2

/-! ### The two lookups -/

section

variable {screen : UIScreen} {initial machine : List unichar} {last : unichar}
  {deviceName : String}

theorem deviceString_of_key (found : objectForKey machine = some deviceName) :
    deviceString screen machine = some (codeUnits deviceName) := by
  simp [deviceString, listedName_eq, found]

theorem deviceString_nil : deviceString screen [] = none := by
  simp [deviceString, listedName_eq, objectForKey_nil, substringToLast]

theorem substringToLast_append : substringToLast (initial ++ [last]) = some initial := by
  have shortened : (initial ++ [last]).dropLast = initial := List.dropLast_concat
  cases initial with
  | nil => rfl
  | cons first rest => exact congrArg some shortened

theorem deviceString_of_initial_key (missing : objectForKey (initial ++ [last]) = none)
    (found : objectForKey initial = some deviceName) :
    deviceString screen (initial ++ [last]) = some (codeUnits deviceName) := by
  simp [deviceString, listedName_eq, missing, substringToLast_append, found]

theorem deviceString_of_missing (notIphoneX : isIphoneX screen = false)
    (missing : objectForKey (initial ++ [last]) = none)
    (initialMissing : objectForKey initial = none) :
    deviceString screen (initial ++ [last]) = some initial := by
  simp [deviceString, listedName_eq, missing, substringToLast_append, initialMissing, notIphoneX]

end

/-! ### Soundness -/

section

variable {screen : UIScreen} {machine : List unichar}

theorem namedSoundly_of_key (isKey : (objectForKey machine).isSome) :
    NamedSoundly machine (deviceString screen machine) := by
  rcases Option.isSome_iff_exists.mp isKey with ⟨deviceName, found⟩
  constructor
  · intro listed listedFound
    exact deviceString_of_key listedFound
  · intro missing
    rw [missing] at isKey
    cases isKey
  · intro missing
    rw [missing] at isKey
    cases isKey

theorem namedSoundly_of_digit {family : List unichar} {digit : unichar}
    (missing : objectForKey machine = none) (inFamily : InFamily machine family [digit]) :
    NamedSoundly machine (deviceString screen machine) := by
  obtain rfl := inFamily.parts
  rcases Option.isSome_iff_exists.mp inFamily.isKey with ⟨familyName, familyFound⟩
  have returned : deviceString screen (family ++ [digit]) = some (codeUnits familyName) :=
    deviceString_of_initial_key missing familyFound
  constructor
  · intro listed listedFound
    rw [missing] at listedFound
    cases listedFound
  · intro _ otherFamily minor other deviceName found
    rcases other.eq_initial inFamily.isKey with ⟨rfl, -⟩
    obtain rfl : familyName = deviceName := Option.some_inj.mp (familyFound.symm.trans found)
    exact returned
  · intro _ none
    exact absurd ⟨family, [digit], inFamily⟩ none

theorem recognised_of_initial_key {initial : List unichar} {last : unichar}
    (missing : objectForKey (initial ++ [last]) = none) (isKey : (objectForKey initial).isSome)
    (sound : NamedSoundly (initial ++ [last]) (deviceString screen (initial ++ [last]))) :
    Recognised (initial ++ [last]) := by
  rcases Option.isSome_iff_exists.mp isKey with ⟨deviceName, found⟩
  by_cases belongs : ∃ family minor, InFamily (initial ++ [last]) family minor
  · rcases belongs with ⟨family, minor, inFamily⟩
    rcases inFamily.eq_initial isKey with ⟨-, rfl⟩
    exact Or.inr ⟨family, last, inFamily⟩
  · -- the name of the shorter identifier would have to be the longer identifier itself
    have returned := sound.other missing belongs
    rw [deviceString_of_initial_key missing found, Option.some_inj] at returned
    exact absurd ⟨[last], returned.symm⟩ (not_prefix_deviceName found)

theorem not_namedSoundly_of_missing {initial : List unichar} {last : unichar}
    (notIphoneX : isIphoneX screen = false)
    (missing : objectForKey (initial ++ [last]) = none)
    (initialMissing : objectForKey initial = none) :
    ¬NamedSoundly (initial ++ [last]) (deviceString screen (initial ++ [last])) := by
  intro sound
  have returned := deviceString_of_missing notIphoneX missing initialMissing
  by_cases belongs : ∃ family minor, InFamily (initial ++ [last]) family minor
  · rcases belongs with ⟨family, minor, inFamily⟩
    rcases Option.isSome_iff_exists.mp inFamily.isKey with ⟨familyName, found⟩
    have named := sound.family missing family minor inFamily familyName found
    rw [returned, Option.some_inj] at named
    have isPrefix := inFamily.prefix_initial
    rw [named] at isPrefix
    exact not_prefix_deviceName found isPrefix
  · have named := sound.other missing belongs
    rw [returned, Option.some_inj] at named
    simpa using congrArg List.length named

theorem deviceString_namedSoundly_iff (notIphoneX : isIphoneX screen = false) :
    NamedSoundly machine (deviceString screen machine) ↔ Recognised machine := by
  constructor
  · intro sound
    cases isKey : objectForKey machine with
    | some deviceName => exact Or.inl (Option.isSome_iff_exists.mpr ⟨deviceName, isKey⟩)
    | none =>
        rcases List.eq_nil_or_concat machine with rfl | ⟨initial, last, rfl⟩
        · have unchanged := sound.other isKey fun ⟨family, minor, inFamily⟩ =>
            not_inFamily_nil family minor inFamily
          rw [deviceString_nil] at unchanged
          cases unchanged
        · rw [List.concat_eq_append] at isKey sound ⊢
          cases found : objectForKey initial with
          | none => exact absurd sound (not_namedSoundly_of_missing notIphoneX isKey found)
          | some deviceName =>
              exact recognised_of_initial_key isKey
                (Option.isSome_iff_exists.mpr ⟨deviceName, found⟩) sound
  · intro recognised
    by_cases isKey : (objectForKey machine).isSome
    · exact namedSoundly_of_key isKey
    · rcases recognised.resolve_left isKey with ⟨family, digit, inFamily⟩
      exact namedSoundly_of_digit (Option.not_isSome_iff_eq_none.mp isKey) inFamily

theorem deviceString_namedSoundly_iPhone5s :
    isIphoneX ⟨320, 568, 2⟩ = false ∧
      deviceString ⟨320, 568, 2⟩ (codeUnits "iPhone6,2") = some (codeUnits "iPhone 5s") ∧
      NamedSoundly (codeUnits "iPhone6,2")
        (deviceString ⟨320, 568, 2⟩ (codeUnits "iPhone6,2")) := by
  have notIphoneX : isIphoneX ⟨320, 568, 2⟩ = false := by
    decide +kernel
  have recognised : Recognised (codeUnits "iPhone6,2") :=
    Or.inr ⟨codeUnits "iPhone6,", 0x32, by decide +kernel, by decide +kernel, by simp,
      by simp [IsDigit], by decide +kernel⟩
  exact ⟨notIphoneX, by decide +kernel,
    (deviceString_namedSoundly_iff notIphoneX).mpr recognised⟩

/-- An iPad of the seventh generation is given the name of an iPad Pro. -/
theorem iPad7_not_namedSoundly :
    isIphoneX ⟨810, 1080, 2⟩ = false ∧
      deviceString ⟨810, 1080, 2⟩ (codeUnits "iPad7,11") =
        some (codeUnits "iPad Pro 12.9 inch 2nd gen") ∧
      ¬NamedSoundly (codeUnits "iPad7,11")
        (deviceString ⟨810, 1080, 2⟩ (codeUnits "iPad7,11")) := by
  have missing : objectForKey (codeUnits "iPad7,1" ++ [0x31]) = none := by
    decide +kernel
  have found : objectForKey (codeUnits "iPad7,1") = some "iPad Pro 12.9 inch 2nd gen" := by
    decide +kernel
  have returned : deviceString ⟨810, 1080, 2⟩ (codeUnits "iPad7,1" ++ [0x31]) =
      some (codeUnits "iPad Pro 12.9 inch 2nd gen") :=
    deviceString_of_initial_key missing found
  have split : codeUnits "iPad7,11" = codeUnits "iPad7,1" ++ [0x31] := by
    decide +kernel
  rw [split]
  refine ⟨by decide +kernel, returned, ?_⟩
  intro sound
  have named := sound.other missing fun ⟨family, minor, inFamily⟩ => by
    have full : (codeUnits "iPad7,1").getLast? ≠ some 0x2C := by
      decide +kernel
    rcases inFamily.eq_initial (Option.isSome_iff_exists.mpr ⟨_, found⟩) with ⟨rfl, -⟩
    exact full inFamily.comma
  rw [returned, Option.some_inj] at named
  exact not_prefix_deviceName found ⟨[0x31], named.symm⟩

end

end ZFDeviceInfo

end ZFBaseFramework

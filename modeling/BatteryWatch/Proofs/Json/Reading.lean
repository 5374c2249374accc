import BatteryWatch.Proofs.Json.Reader
import BatteryWatch.Proofs.StatusLine
import Mathlib.Data.List.TakeWhile

/-!
# Reading what is written

Every flat object that is written is read back as itself, with its members in their order
(`Json.read?_object`). The reader goes over the text part by part: strings (`Reader.run_string`),
integers and lists (`Reader.run_value`), members (`Reader.run_members`). `BatteryStatus.json_law`
says what this means for the line of a status.
-/

namespace BatteryWatch

namespace Json

/-- What a value of a flat object says. -/
def Value.data : Value → Data
  | .integer n => .integer n
  | .text s => .text s
  | .naturals items => .array (items.map fun n : Nat => .integer n)

/-! ## Strings -/

/-- The code of a control character is read from its four digits. -/
theorem natural?_controlEscape : ∀ n < 0x20,
    Decimal.natural? 16 ['0', '0', Nat.digitChar (n / 16), Nat.digitChar (n % 16)] = some n := by
  decide

/-- The code of an escaped character is read. -/
theorem codes?_cons_escaped {c d : Char} (h : escaped? c = some d) (rest : List Char) :
    codes? ('\\' :: c :: rest) = (codes? rest).map (d.toNat :: ·) := by
  have hletter : c ≠ 'u' := by
    rintro rfl
    cases h
  rw [codes?, h, Option.bind_some]
  exact fun _ _ _ _ _ hu => absurd hu hletter

/-- The code of a character that stands for itself is read. -/
theorem codes?_cons_plain {c : Char} (hbackslash : c ≠ '\\') (hplain : ¬c.toNat < 0x20)
    (rest : List Char) : codes? (c :: rest) = (codes? rest).map (c.toNat :: ·) := by
  rw [codes?, if_neg (not_or.mpr ⟨hbackslash, hplain⟩)]
  · exact fun _ _ _ _ _ h => absurd h hbackslash
  · exact fun _ _ h => absurd h hbackslash

/-- The code of a character is read from what is written for it, whatever follows. -/
theorem codes?_escapeChar_append (c : Char) (rest : List Char) :
    codes? (escapeChar c ++ rest) = (codes? rest).map (c.toNat :: ·) := by
  unfold escapeChar
  split
  case h_8 _ _ hbackslash _ _ _ _ _ =>
    split
    next hcontrol =>
      simp only [controlEscape, List.cons_append, List.nil_append, codes?,
        natural?_controlEscape _ hcontrol, Option.bind_some]
    next hplain => exact codes?_cons_plain hbackslash hplain rest
  all_goals exact codes?_cons_escaped rfl rest

/-- The codes of a text are read from what is written for its characters. -/
theorem codes?_flatMap_escapeChar (cs : List Char) :
    codes? (cs.flatMap escapeChar) = some (cs.map Char.toNat) := by
  induction cs with
  | nil => rfl
  | cons c cs ih =>
    rw [List.flatMap_cons, codes?_escapeChar_append, ih, Option.map_some, List.map_cons]

/-- Characters are read from their codes. -/
theorem chars?_map_toNat (cs : List Char) : chars? none (cs.map Char.toNat) = some cs := by
  induction cs with
  | nil => rfl
  | cons c cs ih =>
    -- no code of a character is that of a half of one
    have hvalid : c.toNat < 0xD800 ∨ 0xDFFF < c.toNat ∧ c.toNat < 0x110000 := c.valid
    have hfirst : isFirstHalf c.toNat = false := by
      simp only [isFirstHalf, Bool.and_eq_false_iff, decide_eq_false_iff_not]
      omega
    have hsecond : isSecondHalf c.toNat = false := by
      simp only [isSecondHalf, Bool.and_eq_false_iff, decide_eq_false_iff_not]
      omega
    simp [chars?, hfirst, hsecond, ih, Char.ofNat_toNat]

/-- A text is read from what is written between the quotes. -/
theorem text?_flatMap_escapeChar (s : String) :
    text? (s.toList.flatMap escapeChar) = some s := by
  rw [text?, codes?_flatMap_escapeChar, Option.bind_some, chars?_map_toNat, Option.map_some,
    String.ofList_toList]

/-! ## Integers -/

/-- A number is read from its digits, with the sign that is given. -/
theorem unsigned?_toDigits (sign : Int) (n : Nat) :
    unsigned? sign (Nat.toDigits 10 n) = some (.integer (sign * n)) := by
  have hdigits : ∀ c ∈ Nat.toDigits 10 n, c.isDigit := fun _ => Decimal.isDigit_of_mem_toDigits
  have hzero : ¬(Nat.toDigits 10 n = [] ∨
      (Nat.toDigits 10 n).head? = some '0' ∧ 1 < (Nat.toDigits 10 n).length) := by
    rintro (hnil | ⟨hzero, hlong⟩)
    · exact Nat.toDigits_ne_nil hnil
    · rw [Decimal.eq_zero_of_head?_toDigits n hzero] at hlong
      exact absurd hlong (by decide)
  rw [unsigned?, List.takeWhile_eq_self_iff.mpr hdigits, List.dropWhile_eq_nil_iff.mpr hdigits,
    if_neg hzero, if_pos rfl, Decimal.natural?_of_isDigit Nat.toDigits_ne_nil hdigits,
    Nat.ofDigitChars_ten_toDigits, Option.map_some]

/-- A word that begins with a digit is a number without sign. -/
theorem word?_of_isDigit {raw : List Char} (hne : raw ≠ []) (hdigits : ∀ c ∈ raw, c.isDigit) :
    word? raw = unsigned? 1 raw := by
  cases raw with
  | nil => exact absurd rfl hne
  | cons c raw =>
    obtain ⟨d, hd, rfl⟩ := Decimal.exists_digitChar_of_isDigit (hdigits c List.mem_cons_self)
    have hletter : ∀ d < 10, Nat.digitChar d ≠ 'n' ∧ Nat.digitChar d ≠ 't' ∧
        Nat.digitChar d ≠ 'f' ∧ Nat.digitChar d ≠ '-' := by decide
    obtain ⟨hn, ht, hf, hsign⟩ := hletter d hd
    rw [word?, if_neg (by simp [hn]), if_neg (by simp [ht]), if_neg (by simp [hf]), number?]
    exact fun _ h => hsign (List.cons.inj h).1

/-- An integer is read from the word that is written for it. -/
theorem word?_toString (n : Int) : word? (toString n).toList = some (.integer n) := by
  cases n with
  | ofNat n =>
    rw [Decimal.toList_toString_ofNat, word?_of_isDigit Nat.toDigits_ne_nil fun _ =>
      Decimal.isDigit_of_mem_toDigits, unsigned?_toDigits, Int.one_mul]
    rfl
  | negSucc n =>
    rw [Decimal.toList_toString_negSucc]
    change unsigned? (-1) (Nat.toDigits 10 (n + 1)) = _
    rw [unsigned?_toDigits]
    congr 2
    omega

/-- A written integer has characters, and none that ends a word. -/
theorem endsWord_toString (n : Int) :
    (toString n).toList ≠ [] ∧ ∀ c ∈ (toString n).toList, endsWord c = false := by
  have hdigit : ∀ d < 10, endsWord (Nat.digitChar d) = false := by decide
  have hdigits (n : Nat) : ∀ c ∈ Nat.toDigits 10 n, endsWord c = false := by
    intro c hc
    obtain ⟨d, hd, rfl⟩ :=
      Decimal.exists_digitChar_of_isDigit (Decimal.isDigit_of_mem_toDigits hc)
    exact hdigit d hd
  cases n with
  | ofNat n =>
    rw [Decimal.toList_toString_ofNat]
    exact ⟨Nat.toDigits_ne_nil, hdigits n⟩
  | negSucc n =>
    rw [Decimal.toList_toString_negSucc, List.forall_mem_cons]
    exact ⟨List.cons_ne_nil _ _, by decide, hdigits (n + 1)⟩

/-! ## Runs of the reader -/

namespace Reader

/-- One character is one step. -/
theorem run_singleton (r : Reader) (c : Char) : r.run [c] = r.step c := bind_pure _

/-- The first character is one step. -/
theorem run_cons (r : Reader) (c : Char) (cs : List Char) :
    r.run (c :: cs) = (r.step c).bind fun r => r.run cs := rfl

/-- A text is read part by part. -/
theorem run_append (r : Reader) (cs ds : List Char) :
    r.run (cs ++ ds) = (r.run cs).bind fun r => r.run ds :=
  List.foldlM_append

/-- A character that is a token by itself is put in its place. -/
theorem enter_of_token {c : Char} {t : Token} (hc : Token.ofChar? c = some t) (place : Place) :
    enter place c = (place.step t).map (⟨.nothing, ·⟩) := by
  unfold Token.ofChar? at hc
  split at hc
  case h_7 => cases hc
  all_goals
    cases hc
    rfl

/-- A character that is a token by itself is read where a token can stand. -/
theorem run_token {c : Char} {t : Token} (hc : Token.ofChar? c = some t) (place : Place) :
    run ⟨.nothing, place⟩ [c] = (place.step t).map (⟨.nothing, ·⟩) := by
  rw [run_singleton, step, enter_of_token hc]

/-- Characters that are all part of the same string or word are collected. -/
theorem run_collect (pending : List Char → Pending) {place : Place} {cs : List Char}
    (h : ∀ raw, ∀ c ∈ cs, step ⟨pending raw, place⟩ c = some ⟨pending (raw ++ [c]), place⟩)
    (raw : List Char) :
    run ⟨pending raw, place⟩ cs = some ⟨pending (raw ++ cs), place⟩ := by
  induction cs generalizing raw with
  | nil => rw [List.append_nil]; rfl
  | cons c cs ih =>
    have hrest := ih (fun raw d hd => h raw d (List.mem_cons_of_mem c hd)) (raw ++ [c])
    rw [List.append_assoc] at hrest
    rw [run_cons, h raw c List.mem_cons_self, Option.bind_some, hrest]
    rfl

/-- What is neither a quote nor a backslash is collected in a string. -/
theorem run_plain (place : Place) (raw : List Char) {cs : List Char}
    (hcs : ∀ c ∈ cs, c ≠ '"' ∧ c ≠ '\\') :
    run ⟨.string raw false, place⟩ cs = some ⟨.string (raw ++ cs) false, place⟩ := by
  refine run_collect (.string · false) (fun raw c hc => ?_) raw
  obtain ⟨hquote, hbackslash⟩ := hcs c hc
  have hescaping : (c == '\\') = false := beq_false_of_ne hbackslash
  rw [step, if_neg hquote, hescaping]

/-- A backslash and any character after it are collected in a string. -/
theorem run_escape (place : Place) (raw : List Char) (c : Char) :
    run ⟨.string raw false, place⟩ ['\\', c] =
      some ⟨.string (raw ++ ['\\', c]) false, place⟩ := by
  rw [← List.singleton_append, ← List.append_assoc]
  rfl

/-- What is written for a character is collected in a string. -/
theorem run_escapeChar (place : Place) (raw : List Char) (c : Char) :
    run ⟨.string raw false, place⟩ (escapeChar c) =
      some ⟨.string (raw ++ escapeChar c) false, place⟩ := by
  unfold escapeChar
  split
  case h_8 hquote hbackslash _ _ _ _ _ =>
    split
    next hcontrol =>
      have hdigit : ∀ d < 16, Nat.digitChar d ≠ '"' ∧ Nat.digitChar d ≠ '\\' := by decide
      have hhigh := hdigit (c.toNat / 16) (by omega)
      have hlow := hdigit (c.toNat % 16) (by omega)
      have hsplit : controlEscape c = ['\\', 'u'] ++
          ['0', '0', Nat.digitChar (c.toNat / 16), Nat.digitChar (c.toNat % 16)] := rfl
      rw [hsplit, run_append, run_escape, Option.bind_some, run_plain, List.append_assoc]
      simp [hhigh, hlow]
    next hplain =>
      refine run_plain place raw ?_
      rw [List.forall_mem_singleton]
      exact ⟨hquote, hbackslash⟩
  all_goals exact run_escape place raw _

/-- What is written for a text is collected in a string. -/
theorem run_flatMap_escapeChar (place : Place) (raw cs : List Char) :
    run ⟨.string raw false, place⟩ (cs.flatMap escapeChar) =
      some ⟨.string (raw ++ cs.flatMap escapeChar) false, place⟩ := by
  induction cs generalizing raw with
  | nil => rw [List.flatMap_nil, List.append_nil]; rfl
  | cons c cs ih =>
    rw [List.flatMap_cons, run_append, run_escapeChar, Option.bind_some, ih, List.append_assoc]

/-- A string is read where a token can stand. -/
theorem run_string (place : Place) (s : String) :
    run ⟨.nothing, place⟩ (string s).toList =
      (place.step (.scalar (.text s))).map (⟨.nothing, ·⟩) := by
  have hwritten : (string s).toList = '"' :: (s.toList.flatMap escapeChar ++ ['"']) := by
    simp [string]
  have hopen : step ⟨.nothing, place⟩ '"' = some ⟨.string [] false, place⟩ := rfl
  rw [hwritten, run_cons, hopen, Option.bind_some, run_append, run_flatMap_escapeChar,
    Option.bind_some, List.nil_append, run_singleton, step, if_pos rfl, text?_flatMap_escapeChar,
    Option.bind_some]

/-- An integer is read where a token can stand, together with the token that ends it. -/
theorem run_integer {c : Char} {t : Token} (hc : Token.ofChar? c = some t) (place : Place)
    (n : Int) :
    run ⟨.nothing, place⟩ ((toString n).toList ++ [c]) =
      (place.step (.scalar (.integer n))).bind fun place => (place.step t).map (⟨.nothing, ·⟩) := by
  obtain ⟨hne, hword⟩ := endsWord_toString n
  have hread := word?_toString n
  obtain ⟨first, rest, hsplit⟩ := List.exists_cons_of_ne_nil hne
  rw [hsplit] at hword hread
  obtain ⟨hfirst, hrest⟩ := List.forall_mem_cons.mp hword
  have henter : step ⟨.nothing, place⟩ first = some ⟨.word [first], place⟩ := by
    simp only [endsWord, Bool.or_eq_false_iff, beq_eq_false_iff_ne, Option.isSome_eq_false_iff,
      Option.isNone_iff_eq_none] at hfirst
    obtain ⟨⟨hblank, hquote⟩, htoken⟩ := hfirst
    rw [step, enter, hblank, if_neg (by decide), if_neg hquote, htoken]
  have hcollect : run ⟨.word [first], place⟩ rest = some ⟨.word (first :: rest), place⟩ := by
    refine run_collect .word (fun raw c hc => ?_) [first]
    rw [step, if_neg (by simp [hrest c hc])]
  have hend : step ⟨.word (first :: rest), place⟩ c =
      (place.step (.scalar (.integer n))).bind fun place => (place.step t).map (⟨.nothing, ·⟩) := by
    have hends : endsWord c := by simp [endsWord, hc]
    rw [step, if_pos hends, endWord, hread, Option.bind_some]
    simp only [enter_of_token hc]
  rw [run_append, hsplit, run_cons, henter, Option.bind_some, hcollect, Option.bind_some,
    run_singleton, hend]

/-! ## Lists and objects -/

/-- What is written for a list begins with its first part and a comma, if there is another part. -/
theorem toList_intercalate_map_cons {α : Type} (write : α → String) (first next : α)
    (rest : List α) (close : List Char) :
    (",".intercalate ((first :: next :: rest).map write)).toList ++ close =
      ((write first).toList ++ [',']) ++
        ((",".intercalate ((next :: rest).map write)).toList ++ close) := by
  rw [List.map_cons, List.map_cons, String.intercalate_cons_cons]
  simp only [String.toList_append, List.append_assoc]
  rfl

/-- The elements of a list are read where the next element of an array can stand, together with the
bracket that closes it. -/
theorem run_items {place : Place} {done : List Data} {within : List Container}
    (hplace : ∀ d, place.step (.scalar d) = some (.afterValue d (.array done :: within)))
    (n : Nat) (items : List Nat) :
    run ⟨.nothing, place⟩ ((",".intercalate ((n :: items).map toString)).toList ++ [']']) =
      some ⟨.nothing, .afterValue
        (.array (done ++ (n :: items).map fun n : Nat => .integer n)) within⟩ := by
  induction items generalizing n done place with
  | nil =>
    have hinteger := run_integer (c := ']') rfl place n
    rw [hplace, Option.bind_some] at hinteger
    rw [List.map_singleton, String.intercalate_singleton]
    exact hinteger
  | cons m items ih =>
    have hinteger : run ⟨.nothing, place⟩ ((toString n).toList ++ [',']) =
        some ⟨.nothing, .beforeValue (.array (done ++ [.integer n]) :: within)⟩ := by
      have hread := run_integer (c := ',') rfl place n
      rwa [hplace, Option.bind_some] at hread
    rw [toList_intercalate_map_cons, run_append, hinteger, Option.bind_some, ih (fun _ => rfl),
      List.append_assoc]
    rfl

/-- A value is read where it can stand, together with the token that follows it. -/
theorem run_value {c : Char} {t : Token} (hc : Token.ofChar? c = some t)
    (within : List Container) (v : Value) :
    run ⟨.nothing, .beforeValue within⟩ (v.render.toList ++ [c]) =
      (Place.step (.afterValue v.data within) t).map (⟨.nothing, ·⟩) := by
  cases v with
  | integer n => exact run_integer hc (.beforeValue within) n
  | text s =>
    rw [run_append, Value.render, run_string]
    exact run_token hc (.afterValue (.text s) within)
  | naturals items =>
    have harray : run ⟨.nothing, .beforeValue within⟩ (Value.naturals items).render.toList =
        some ⟨.nothing, .afterValue (Value.naturals items).data within⟩ := by
      have hrender : (Value.naturals items).render.toList =
          '[' :: ((",".intercalate (items.map toString)).toList ++ [']']) := by
        simp [Value.render]
      rw [hrender]
      change run ⟨.nothing, .inArray within⟩ _ = _
      cases items with
      | nil => rfl
      | cons n items =>
        have hplace (d : Data) : Place.step (.inArray within) (.scalar d) =
            some (.afterValue d (.array [] :: within)) := rfl
        exact run_items hplace n items
    rw [run_append, harray]
    exact run_token hc _

/-- A member is read where a key can stand, together with the token that follows it. -/
theorem run_member {place : Place} {done : List (String × Data)} {within : List Container}
    (hplace : ∀ key, place.step (.scalar (.text key)) = some (.afterKey done key within))
    (field : String × Value) {c : Char} {t : Token} (hc : Token.ofChar? c = some t) :
    run ⟨.nothing, place⟩ ((member field).toList ++ [c]) =
      (Place.step (.afterValue field.2.data (.object done field.1 :: within)) t).map
        (⟨.nothing, ·⟩) := by
  have hsplit : (member field).toList ++ [c] =
      (string field.1).toList ++ ([':'] ++ (field.2.render.toList ++ [c])) := by
    simp [member]
  rw [hsplit, run_append, run_string, hplace, Option.map_some, Option.bind_some, run_append]
  exact run_value hc (.object done field.1 :: within) field.2

/-- The members of an object are read where a key can stand, together with the brace that closes
it. -/
theorem run_members {place : Place} {done : List (String × Data)} {within : List Container}
    (hplace : ∀ key, place.step (.scalar (.text key)) = some (.afterKey done key within))
    (field : String × Value) (fields : List (String × Value)) :
    run ⟨.nothing, place⟩
        ((",".intercalate ((field :: fields).map member)).toList ++ ['\x7d']) =
      some ⟨.nothing, .afterValue
        (.object (done ++ (field :: fields).map fun field => (field.1, field.2.data))) within⟩ := by
  induction fields generalizing field done place with
  | nil =>
    rw [List.map_singleton, String.intercalate_singleton,
      run_member hplace field (c := '\x7d') rfl]
    rfl
  | cons next fields ih =>
    have hmember : run ⟨.nothing, place⟩ ((member field).toList ++ [',']) =
        some ⟨.nothing, .beforeKey (done ++ [(field.1, field.2.data)]) within⟩ :=
      run_member hplace field (c := ',') (t := .comma) rfl
    rw [toList_intercalate_map_cons, run_append, hmember, Option.bind_some, ih (fun _ => rfl),
      List.append_assoc]
    rfl

end Reader

/-- A flat object is read back with its members in their order. -/
theorem read?_object (fields : List (String × Value)) :
    read? (object fields) = some (.object (fields.map fun field => (field.1, field.2.data))) := by
  have hobject : Reader.initial.run (object fields).toList =
      some ⟨.nothing, .afterValue
        (.object (fields.map fun field => (field.1, field.2.data))) []⟩ := by
    have hwritten : (object fields).toList =
        '\x7b' :: ((",".intercalate (fields.map member)).toList ++ ['\x7d']) := by
      simp [object]
    rw [hwritten]
    change Reader.run ⟨.nothing, .inObject []⟩ _ = _
    cases fields with
    | nil => rfl
    | cons field fields =>
      have hplace (key : String) : Place.step (.inObject []) (.scalar (.text key)) =
          some (.afterKey [] key []) := rfl
      exact Reader.run_members hplace field fields
  rw [read?, hobject]
  rfl

end Json

namespace BatteryStatus

/-- Lines of JSON lose nothing.

Whatever the text of the time, the line of a status as JSON has no control character, and what is
read of it is one object with nine members: the time as it was given and the eight readings in
their order, the current with its sign. -/
theorem json_law (time : String) (s : BatteryStatus) :
    (∀ c ∈ (s.line time true).toList, 0x20 ≤ c.toNat) ∧
    Json.read? (s.line time true) = some (.object
      [("time", .text time),
        ("power_source", .integer s.powerSource.toNat),
        ("platform_charging", .integer s.platformCharging.toNat),
        ("main_adc_battery_value", .integer s.mainAdc.toNat),
        ("aux_charge_status", .integer s.chargeStatus.toNat),
        ("aux_battery_voltage", .integer s.batteryVoltage.toNat),
        ("aux_charge_current", .integer s.chargeCurrent.toInt),
        ("aux_stepdown_voltage", .integer s.stepdownVoltage.toNat),
        ("aux_dac_register_val", .integer s.dacRegister.toNat)]) :=
  ⟨Json.plain_object _, Json.read?_object _⟩

/-- A line break and a quote in the time are escaped, and read back as they were; a negative current
keeps its sign. -/
theorem json_of_broken_time :
    '\\' ∈ ((⟨1, 0, 2950, 0, 3700, -250, 3300, 7⟩ : BatteryStatus).line "1\n\"" true).toList ∧
    0x20 ≤ '\\'.toNat ∧
    Json.read? ((⟨1, 0, 2950, 0, 3700, -250, 3300, 7⟩ : BatteryStatus).line "1\n\"" true) =
      some (.object
        [("time", .text "1\n\""),
          ("power_source", .integer 1), ("platform_charging", .integer 0),
          ("main_adc_battery_value", .integer 2950), ("aux_charge_status", .integer 0),
          ("aux_battery_voltage", .integer 3700), ("aux_charge_current", .integer (-250)),
          ("aux_stepdown_voltage", .integer 3300), ("aux_dac_register_val", .integer 7)]) := by
  have hlaw := json_law "1\n\"" ⟨1, 0, 2950, 0, 3700, -250, 3300, 7⟩
  have hescaped : '\\' ∈
      ((⟨1, 0, 2950, 0, 3700, -250, 3300, 7⟩ : BatteryStatus).line "1\n\"" true).toList := by
    decide +kernel
  exact ⟨hescaped, hlaw.1 _ hescaped, hlaw.2⟩

end BatteryStatus

end BatteryWatch

import Mathlib.Data.List.Nodup
import Parcelgen.Proofs.Wit.Closed
import Parcelgen.Proofs.Wit.Label

/-!
Names of members and enumerators. A label becomes a C++ name that is reserved exactly if its snake case is one of the reserved words that have no
escape (`memberName_reserved_iff`). Members, and enumerators, of a converted type are told apart as far as snake case tells their labels apart
(`partNames_nodup_iff`).
-/

namespace Parcelgen

namespace Wit

/-- A letter or underscore, then letters, digits and underscores. -/
def isCppName (s : String) : Bool :=
  match s.toList with
  | [] => false
  | c :: cs => (c.isAlpha || c == '_') && cs.all fun d => d.isAlphanum || d == '_'

/-- The words that C++ reserves: its keywords, and the words that are operators. -/
def reservedWords : List String := [
  "alignas", "alignof", "and", "and_eq", "asm", "auto", "bitand", "bitor", "bool", "break", "case", "catch", "char", "char8_t", "char16_t",
  "char32_t", "class", "compl", "concept", "const", "consteval", "constexpr", "constinit", "const_cast", "continue", "co_await", "co_return",
  "co_yield", "decltype", "default", "delete", "do", "double", "dynamic_cast", "else", "enum", "explicit", "export", "extern", "false",
  "float", "for", "friend", "goto", "if", "inline", "int", "long", "mutable", "namespace", "new", "noexcept", "not", "not_eq", "nullptr",
  "operator", "or", "or_eq", "private", "protected", "public", "register", "reinterpret_cast", "requires", "return", "short", "signed",
  "sizeof", "static", "static_assert", "static_cast", "struct", "switch", "template", "this", "thread_local", "throw", "true", "try",
  "typedef", "typeid", "typename", "union", "unsigned", "using", "virtual", "void", "volatile", "wchar_t", "while", "xor", "xor_eq"]

/-- The reserved words that are not among the `keywords`. -/
def missedWords : List String := [
  "and_eq", "bitand", "bitor", "char8_t", "char16_t", "char32_t", "compl", "concept", "consteval", "constinit", "const_cast", "co_await",
  "co_return", "co_yield", "dynamic_cast", "not_eq", "or_eq", "reinterpret_cast", "requires", "static_assert", "static_cast",
  "thread_local", "wchar_t", "xor_eq"]

theorem mem_missedWords_iff (w : String) : w ∈ missedWords ↔ w ∈ reservedWords ∧ w ∉ keywords := by
  have hmissed : ∀ w ∈ missedWords, w ∈ reservedWords ∧ w ∉ keywords := by decide +kernel
  have hreserved : ∀ w ∈ reservedWords, w ∉ keywords → w ∈ missedWords := by decide +kernel
  exact ⟨hmissed w, fun h => hreserved w h.1 h.2⟩

theorem getLast?_of_mem_reservedWords : ∀ w ∈ reservedWords, w.toList.getLast? ≠ some '_' := by decide +kernel

/-- Every missed word is the name of a member: that of the label with a dash for each underscore. -/
theorem memberName_missed : ∀ w ∈ missedWords,
    isLabel (w.map fun c => if c == '_' then '-' else c) = true ∧ memberName (w.map fun c => if c == '_' then '-' else c) = w := by
  decide +kernel

theorem memberName_eq (s : String) : memberName s = snakeCase s ++ if snakeCase s ∈ keywords then "_" else "" := by
  unfold memberName
  simp only [List.contains_iff_mem]
  split <;> simp

theorem isCppName_append {s t : String} (hs : IsSnakeText s.toList) (ht : ∀ c ∈ t.toList, inSnake c = true) :
    isCppName (s ++ t) = true := by
  have hrest : ∀ c, inSnake c = true → (c.isAlphanum || c == '_') = true := fun c hc => by simpa using isAlphanum_of_inSnake hc
  obtain ⟨c, cs, hcs⟩ := List.exists_cons_of_ne_nil hs.ne_nil
  have hchars := hs.chars
  have hhead := hs.head
  rw [hcs] at hchars hhead
  unfold isCppName
  rw [String.toList_append, hcs, List.cons_append]
  refine Bool.and_eq_true_iff.mpr ⟨?_, List.all_eq_true.mpr fun d hd => hrest d ?_⟩
  · exact Bool.or_eq_true_iff.mpr (.inl (Bool.or_eq_true_iff.mpr (.inr (hhead c rfl))))
  · rcases List.mem_append.mp hd with hd | hd
    · exact hchars d (List.mem_cons_of_mem c hd)
    · exact ht d hd

/-- The name of a member is a C++ name for every label. It is a reserved word exactly if the label in snake case is one of those that are missed,
and each of these is the name of a member for some label. -/
theorem memberName_reserved_iff (s : String) (h : isLabel s = true) :
    isCppName (memberName s) = true ∧ (memberName s ∈ reservedWords ↔ snakeCase s ∈ missedWords) ∧
      ∀ w ∈ missedWords, ∃ label, isLabel label = true ∧ memberName label = w := by
  rw [memberName_eq, mem_missedWords_iff]
  refine ⟨isCppName_append (isSnakeText_snakeCase (isLabelText_of_isLabel h)) ?_, ?_, fun w hw => ⟨_, memberName_missed w hw⟩⟩
  · split <;> simp [inSnake]
  · split
    · rename_i hkeyword
      refine ⟨fun hreserved => ?_, fun hmissed => absurd hkeyword hmissed.2⟩
      exact absurd (by simp) (getLast?_of_mem_reservedWords _ hreserved)
    · rename_i hplain
      simp [hplain]

/-- Capitals behind a digit start a word of their own, and a word that is escaped. -/
theorem memberName_reserved_iff_forms :
    (isLabel "CHAR8T" = true ∧ isCppName (memberName "CHAR8T") = true ∧ memberName "CHAR8T" ∈ reservedWords) ∧
      isLabel "NEW" = true ∧ isCppName (memberName "NEW") = true ∧ memberName "NEW" ∉ reservedWords := by
  have hchar : isLabel "CHAR8T" = true := by decide +kernel
  have hnew : isLabel "NEW" = true := by decide +kernel
  obtain ⟨hcharName, hcharReserved, -⟩ := memberName_reserved_iff "CHAR8T" hchar
  obtain ⟨hnewName, hnewReserved, -⟩ := memberName_reserved_iff "NEW" hnew
  refine ⟨⟨hchar, hcharName, hcharReserved.mpr ?_⟩, hnew, hnewName, fun h => ?_⟩
  · decide +kernel
  · exact absurd (hnewReserved.mp h) (by decide +kernel)

/-- An operator in words has no escape. -/
theorem memberName_compl_reserved : isLabel "compl" = true ∧ memberName "compl" ∈ reservedWords := by decide +kernel

/-! Members and enumerators of one type -/

/-- Escapes do not make names meet: no label in snake case ends in an underscore. -/
theorem memberName_eq_iff {a b : String} (ha : IsSnakeText (snakeCase a).toList) (hb : IsSnakeText (snakeCase b).toList) :
    memberName a = memberName b ↔ snakeCase a = snakeCase b := by
  have hlast : ∀ s t : String, IsSnakeText t.toList → s ++ "_" ≠ t := by
    rintro s t ht rfl
    exact ht.last '_' (by simp) rfl
  constructor
  · intro h
    rw [memberName_eq, memberName_eq] at h
    split at h
    · split at h
      · exact String.append_left_inj _ |>.mp h
      · exact absurd (by simpa using h) (hlast _ _ hb)
    · split at h
      · exact absurd (by simpa using h.symm) (hlast _ _ ha)
      · simpa using h
  · intro h
    rw [memberName, memberName, h]

theorem upperSnakeCase_eq_iff {a b : String} (ha : IsSnakeText (snakeCase a).toList) (hb : IsSnakeText (snakeCase b).toList) :
    upperSnakeCase a = upperSnakeCase b ↔ snakeCase a = snakeCase b := by
  have hback : ∀ c, inSnake c = true → Text.toLower (Text.toUpper c) = c := by
    intro c hc
    have hascii : c.toNat < 0x80 := toNat_lt_of_inName (by
      rcases isAlphanum_of_inSnake hc with h | rfl
      · simp [inName, h]
      · rfl)
    refine forall_ascii (P := fun c => inSnake c = true → Text.toLower (Text.toUpper c) = c) ?_ hascii hc
    decide +kernel
  constructor
  · intro h
    have hmap : (snakeCase a).toList.map Text.toUpper = (snakeCase b).toList.map Text.toUpper := by
      simpa [upperSnakeCase, Text.upper] using congrArg String.toList h
    simpa [String.toList_inj] using map_eq_of_factor (h := id) hback ha.chars hb.chars hmap
  · intro h
    rw [upperSnakeCase, upperSnakeCase, h]

/-- The labels of a record's fields, of cases or of flags. -/
def TypeDef.labels (d : TypeDef) : List String :=
  match d.kind with
  | some (.record fields) => fields.map (·.1)
  | some (.enum names) | some (.flags names) => names
  | _ => []

end Wit

/-- The names of members or enumerators. -/
def WireType.partNames : WireType → List String
  | .struct _ fields => fields.map (·.1)
  | .enum _ _ values => values.map (·.1)
  | _ => []

namespace Wit

theorem flagValues_names (i : Nat) (names : List String) : (flagValues i names).map (·.1) = names.map upperSnakeCase := by
  induction names generalizing i with
  | nil => rfl
  | cons name names ih =>
    show upperSnakeCase name :: (flagValues (i + 1) names).map (·.1) = _
    rw [ih, List.map_cons]

theorem numberedFields_names (i : Nat) (types : List TypeRef) :
    ((numberedFields i types).map (·.2)).map (·.1) = (List.range' i types.length).map fun k => "f" ++ toString k := by
  induction types generalizing i with
  | nil => rfl
  | cons ref types ih => simp only [numberedFields, List.map_cons, ih, List.length_cons, List.range'_succ]

theorem nodup_numberedFields (types : List TypeRef) : (((numberedFields 0 types).map (·.2)).map (·.1)).Nodup := by
  rw [numberedFields_names]
  refine List.Nodup.map (fun i j h => ?_) List.nodup_range'
  have hdigits : (toString i).toList = (toString j).toList := by simpa using congrArg String.toList h
  simpa using congrArg (fun ds => Nat.ofDigitChars 10 ds 0) hdigits

/-- The names in a converted type come from its labels one by one, each in the same way, or are numbers. -/
theorem TypeOf.partNames_eq {known : TypeRef → WireType → Prop} {qualify : String → String} {d : TypeDef} {t : WireType}
    (h : TypeOf known qualify d t) (hnamed : d.isNamedType = true) :
    t.partNames = d.labels.map memberName ∨ t.partNames = d.labels.map upperSnakeCase ∨ d.labels = [] ∧ t.partNames.Nodup := by
  cases h with
  | struct _ hmembers hnames _ =>
    unfold TypeDef.members? at hmembers
    split at hmembers
    · rename_i fields hk
      cases hmembers
      left
      simpa [WireType.partNames, TypeDef.labels, hk, Function.comp_def] using hnames.symm
    · rename_i types hk
      cases hmembers
      refine .inr (.inr ⟨by simp [TypeDef.labels, hk], ?_⟩)
      rw [WireType.partNames, ← hnames]
      exact nodup_numberedFields types
    · cases hmembers
  | enum _ hk => exact .inr (.inl (by simp [WireType.partNames, TypeDef.labels, hk, Function.comp_def]))
  | flags _ hk => exact .inr (.inl (by simp [WireType.partNames, TypeDef.labels, hk, flagValues_names]))
  | wideFlags hk hlt => simp [TypeDef.isNamedType, hk, Nat.not_le.mpr hlt] at hnamed
  | list hk => simp [TypeDef.isNamedType, hk] at hnamed
  | resource hi =>
    obtain ⟨name, hk, -⟩ := TypeDef.interface?_eq_some_iff.mp hi
    simp [TypeDef.isNamedType, hk] at hnamed
  | same htarget => simp [(TypeDef.isNamedType_of_target? htarget).1] at hnamed

/-- The definition's labels are labels, and no two of them are the same but for letter case. -/
structure TypeDef.LabelsApart (d : TypeDef) : Prop where
  labels : ∀ s ∈ d.labels, isLabel s = true
  apart : (d.labels.map String.toLower).Nodup

theorem Resolve.labelsApart_definition {r : Resolve} (h : ∀ d ∈ r.defs, d.LabelsApart) (id : Nat) : (r.definition id).LabelsApart := by
  rcases r.definition_cases id with hd | hd
  · exact h _ (List.mem_of_getElem? hd)
  · rw [hd]
    exact ⟨by simp [TypeDef.labels], by simp [TypeDef.labels]⟩

/-- Distinct labels keep names apart exactly if they are distinct also when spelled out, not minding letter case. -/
theorem TypeOf.nodup_partNames_iff {known : TypeRef → WireType → Prop} {qualify : String → String} {d : TypeDef} {t : WireType}
    (h : TypeOf known qualify d t) (hnamed : d.isNamedType = true) (hlabels : d.LabelsApart) :
    t.partNames.Nodup ↔ ∀ a ∈ d.labels, ∀ b ∈ d.labels, (spelledOut a).toLower = (spelledOut b).toLower → a = b := by
  have hnodup : d.labels.Nodup := List.Nodup.of_map _ hlabels.apart
  have hsnake : ∀ s ∈ d.labels, IsSnakeText (snakeCase s).toList := fun s hs =>
    isSnakeText_snakeCase (isLabelText_of_isLabel (hlabels.labels s hs))
  have hspelled : ∀ a ∈ d.labels, ∀ b ∈ d.labels, snakeCase a = snakeCase b ↔ (spelledOut a).toLower = (spelledOut b).toLower :=
    fun a ha b hb => snakeCase_eq_iff (isLabelText_of_isLabel (hlabels.labels a ha)) (isLabelText_of_isLabel (hlabels.labels b hb))
  rcases h.partNames_eq hnamed with heq | heq | ⟨hnil, htuple⟩
  · rw [heq, List.nodup_map_iff_inj_on hnodup]
    refine forall₂_congr fun a ha => forall₂_congr fun b hb => ?_
    rw [memberName_eq_iff (hsnake a ha) (hsnake b hb), hspelled a ha b hb]
  · rw [heq, List.nodup_map_iff_inj_on hnodup]
    refine forall₂_congr fun a ha => forall₂_congr fun b hb => ?_
    rw [upperSnakeCase_eq_iff (hsnake a ha) (hsnake b hb), hspelled a ha b hb]
  · simp [hnil, htuple]

/-- Every type of a converted package comes from a definition, and when labels are distinct, not minding letter case, the names of its members or
enumerators are distinct exactly if the labels are distinct also when spelled out. So they are whenever no capital stands behind a digit. -/
theorem partNames_nodup_iff (r : Resolve) (space : String) (p : Package) (hp : r.toPackage space = .ok p)
    (hlabels : ∀ d ∈ r.defs, d.LabelsApart) :
    ∀ t ∈ p.types, ∃ id, (r.definition id).isNamedType = true ∧ r.StandsFor p.qualify (.defined id) t ∧
      (t.partNames.Nodup ↔
        ∀ a ∈ (r.definition id).labels, ∀ b ∈ (r.definition id).labels, (spelledOut a).toLower = (spelledOut b).toLower → a = b) ∧
      ((∀ s ∈ (r.definition id).labels, spelledOut s = s) → t.partNames.Nodup) := by
  obtain ⟨fin, hconv⟩ := Resolve.conversion_of_toPackage (fun _ => True) (fun _ _ _ => id) (fun _ _ => trivial) hp
  intro t ht
  rw [hconv.types_eq] at ht
  obtain ⟨e, he, rfl⟩ := List.mem_map.mp ht
  obtain ⟨hfin, hnamed⟩ := Resolve.mem_named.mp he
  have hapart := Resolve.labelsApart_definition hlabels e.1
  have hiff := (hconv.typeOf e hfin).nodup_partNames_iff hnamed hapart
  refine ⟨e.1, hnamed, hconv.standsFor e hfin, hiff, fun hspelled => hiff.mpr fun a ha b hb heq => ?_⟩
  rw [hspelled a ha, hspelled b hb] at heq
  exact List.inj_on_of_nodup_map hapart.apart ha hb heq

/-- Labels that differ in a dash, in an escape or behind a digit. -/
theorem partNames_nodup_iff_mixed :
    let r : Resolve := {
      defs := [
        { name := some "point", kind := some (.record [("user-ID", .primitive .u32), ("int", .primitive .u32), ("INT-x", .primitive .u32)]) },
        { name := some "hue", kind := some (.enum ["dark-red", "B2R", "B2-Q"]) }]
      slots := [some 0, some 1]
      packages := ["shapes"] }
    (∀ d ∈ r.defs, d.LabelsApart) ∧ ∃ p, r.toPackage "demo" = .ok p ∧ p.types.length = 2 ∧ ∀ t ∈ p.types, t.partNames.Nodup := by
  intro r
  have hlabels : ∀ d ∈ r.defs, d.LabelsApart :=
    List.forall_mem_cons.mpr ⟨⟨by decide +kernel, by decide +kernel⟩, List.forall_mem_singleton.mpr ⟨by decide +kernel, by decide +kernel⟩⟩
  have hspelled : ∀ id, ∀ a ∈ (r.definition id).labels, ∀ b ∈ (r.definition id).labels,
      (spelledOut a).toLower = (spelledOut b).toLower → a = b := by
    intro id
    rcases id with _ | _ | id
    · decide +kernel
    · decide +kernel
    · simp [Resolve.definition, Resolve.def?, r, TypeDef.labels]
  have hlength : (r.toPackage "demo").toOption.map (·.types.length) = some 2 := by decide +kernel
  refine ⟨hlabels, ?_⟩
  cases hp : r.toPackage "demo" with
  | error f => simp [hp, Except.toOption] at hlength
  | ok p =>
    refine ⟨p, rfl, by simpa [hp, Except.toOption] using hlength, fun t ht => ?_⟩
    obtain ⟨id, -, -, hiff, -⟩ := partNames_nodup_iff r "demo" p hp hlabels t ht
    exact hiff.mpr (hspelled id)

/-- Two labels that snake case does not tell apart. -/
theorem partNames_meet :
    let r : Resolve := {
      defs := [{ name := some "point", kind := some (.record [("B2R", .primitive .u32), ("B2-R", .primitive .u32)]) }]
      slots := [some 0]
      packages := ["shapes"] }
    (∀ d ∈ r.defs, d.LabelsApart) ∧ ∃ p, r.toPackage "demo" = .ok p ∧ ∃ t ∈ p.types, ¬ t.partNames.Nodup := by
  intro r
  have hlabels : ∀ d ∈ r.defs, d.LabelsApart := List.forall_mem_singleton.mpr ⟨by decide +kernel, by decide +kernel⟩
  have hnames : (r.toPackage "demo").toOption.map (·.types.map (·.partNames)) = some [["b2_r", "b2_r"]] := by decide +kernel
  refine ⟨hlabels, ?_⟩
  cases hp : r.toPackage "demo" with
  | error f => simp [hp, Except.toOption] at hnames
  | ok p =>
    have hmap : p.types.map (·.partNames) = [["b2_r", "b2_r"]] := by simpa [hp, Except.toOption] using hnames
    have hmem : ["b2_r", "b2_r"] ∈ p.types.map (·.partNames) := by simp [hmap]
    obtain ⟨t, ht, heq⟩ := List.mem_map.mp hmem
    exact ⟨p, rfl, t, ht, by simp [heq]⟩

end Wit

end Parcelgen

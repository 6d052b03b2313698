import Mathlib.Data.List.Chain
import Mathlib.Data.List.Nodup
import Parcelgen.Proofs.Wit.Name

/-!
Labels: what names a member, case or flag of a component interface. A label is made of words joined by dashes, each in small letters or in
capitals. Snake case tells two labels apart by their letters and digits, not minding letter case, and by the places of their dashes, except
that it starts a new word at every capital behind a digit, whether there is a dash or not (`toList_snakeCase`).
-/

namespace Parcelgen.Wit

/-- A word of one kind of letter, and digits behind the first. -/
def isWordOf (isLetter : Char → Bool) : List Char → Bool
  | [] => false
  | c :: cs => isLetter c && cs.all fun d => isLetter d || d.isDigit

/-- A word in small letters or in capitals. -/
def isWord (w : List Char) : Bool := isWordOf Char.isLower w || isWordOf Char.isUpper w

/-- Words joined by single dashes. -/
def isLabel (s : String) : Bool := (splitOn '-' s.toList).all isWord

/-- Words in small letters joined by single dashes. -/
def isLowerLabel (s : String) : Bool := (splitOn '-' s.toList).all (isWordOf Char.isLower)

theorem exists_of_isWordOf {isLetter : Char → Bool} {w : List Char} (h : isWordOf isLetter w = true) :
    ∃ c cs, w = c :: cs ∧ isLetter c = true := by
  cases w with
  | nil => cases h
  | cons c cs => exact ⟨c, cs, rfl, (Bool.and_eq_true_iff.mp h).1⟩

theorem mem_of_isWordOf {isLetter : Char → Bool} {w : List Char} (h : isWordOf isLetter w = true) :
    ∀ c ∈ w, (isLetter c || c.isDigit) = true := by
  cases w with
  | nil => cases h
  | cons c cs =>
    obtain ⟨hc, hcs⟩ := Bool.and_eq_true_iff.mp h
    exact List.forall_mem_cons.mpr ⟨Bool.or_eq_true_iff.mpr (.inl hc), List.all_eq_true.mp hcs⟩

theorem splitOn_eq (sep : Char) (cs : List Char) : splitOn sep cs = List.splitOn sep cs := by
  induction cs with
  | nil => rfl
  | cons c cs ih =>
    rw [splitOn, List.splitOn_eq_splitOnP, List.splitOnP_cons_eq_if_modifyHead, ← List.splitOn_eq_splitOnP, ← ih]
    split
    · rfl
    · cases hs : splitOn sep cs with
      | nil => exact absurd (ih.symm.trans hs) (List.splitOn_ne_nil sep cs)
      | cons part more => rfl

/-- What all labels of words have that words have and that a dash between two of them keeps. -/
theorem label_induction {ok : List Char → Bool} {motive : List Char → Prop} (word : ∀ w, ok w = true → motive w)
    (joined : ∀ w cs, ok w = true → motive cs → motive (w ++ '-' :: cs)) {cs : List Char} (h : (splitOn '-' cs).all ok = true) :
    motive cs := by
  have hne : splitOn '-' cs ≠ [] := splitOn_eq '-' cs ▸ List.splitOn_ne_nil '-' cs
  have hjoin : ['-'].intercalate (splitOn '-' cs) = cs := splitOn_eq '-' cs ▸ List.intercalate_splitOn '-'
  rw [← hjoin]
  rw [List.all_eq_true] at h
  generalize splitOn '-' cs = ws at h hne
  induction ws with
  | nil => exact absurd rfl hne
  | cons w ws ih =>
    obtain ⟨hw, hws⟩ := List.forall_mem_cons.mp h
    cases ws with
    | nil => simpa using word w hw
    | cons v ws => simpa [List.intercalate_cons_cons] using joined w _ hw (ih hws (List.cons_ne_nil v ws))

/-! Character by character -/

theorem isUpper_of_ascii {c : Char} (h : c.toNat < 0x80) : Text.isUpper c = c.isUpper := if_pos h

theorem isLower_of_ascii {c : Char} (h : c.toNat < 0x80) : Text.isLower c = c.isLower := if_pos h

/-- What holds of the characters of ASCII by inspection. -/
theorem forall_ascii {P : Char → Prop} (h : ∀ n < 0x80, P (Char.ofNat n)) {c : Char} (hc : c.toNat < 0x80) : P c := by
  have hchar := h c.toNat hc
  rwa [Char.ofNat_toNat] at hchar

/-- Stands in a label. -/
def inLabel (c : Char) : Bool := c.isAlphanum || c == '-'

theorem ascii_of_inLabel {c : Char} (h : inLabel c = true) : c.toNat < 0x80 := toNat_lt_of_inName (Bool.or_eq_true_iff.mpr (.inl h))

/-- What may stand behind what in a label: a capital begins a word or goes on with one, and no small letter stands behind a capital. -/
def Follows (b c : Char) : Prop :=
  (c.isUpper = true → b = '-' ∨ b.isUpper = true ∨ b.isDigit = true) ∧ (c.isLower = true → b.isUpper = false)

/-- Labels as sequences of characters. -/
structure IsLabelText (cs : List Char) : Prop where
  chars : ∀ c ∈ cs, inLabel c = true
  chain : cs.IsChain Follows
  head : ∀ c ∈ cs.head?, c.isAlpha = true
  last : ∀ c ∈ cs.getLast?, c ≠ '-'
  ne_nil : cs ≠ []

theorem follows_dash (b : Char) : Follows b '-' := ⟨fun h => absurd h (by decide), fun h => absurd h (by decide)⟩

theorem dash_follows (c : Char) : Follows '-' c := ⟨fun _ => .inl rfl, fun _ => rfl⟩

/-- Small letters, capitals and digits are different characters. -/
theorem ascii_classes {c : Char} (h : inLabel c = true) :
    ((c.isLower || c.isDigit) = true → c.isUpper = false) ∧ ((c.isUpper || c.isDigit) = true → c.isLower = false) := by
  refine forall_ascii (P := fun c => ((c.isLower || c.isDigit) = true → c.isUpper = false) ∧
    ((c.isUpper || c.isDigit) = true → c.isLower = false)) ?_ (ascii_of_inLabel h)
  decide +kernel

/-- A word in one letter case is a label if its characters may stand behind each other in any order. -/
theorem isLabelText_of_isWordOf {isLetter : Char → Bool} (halpha : ∀ c, isLetter c = true → c.isAlpha = true)
    (hfollows : ∀ b c, inLabel b = true → inLabel c = true → (isLetter b || b.isDigit) = true → (isLetter c || c.isDigit) = true → Follows b c)
    {w : List Char} (h : isWordOf isLetter w = true) : IsLabelText w := by
  have hall := mem_of_isWordOf h
  have hchars : ∀ d ∈ w, d.isAlphanum = true :=
    fun d hd => Bool.or_eq_true_iff.mpr ((Bool.or_eq_true_iff.mp (hall d hd)).imp_left (halpha d))
  have hlabel : ∀ d ∈ w, inLabel d = true := fun d hd => Bool.or_eq_true_iff.mpr (.inl (hchars d hd))
  refine ⟨hlabel, ?_, fun c hc => ?_, fun d hd => ?_, ?_⟩
  · exact (List.pairwise_of_forall_mem_list fun b hb d hd => hfollows b d (hlabel b hb) (hlabel d hd) (hall b hb) (hall d hd)).isChain
  · obtain ⟨first, rest, rfl, hfirst⟩ := exists_of_isWordOf h
    cases hc
    exact halpha c hfirst
  · rintro rfl
    cases hchars '-' (List.mem_of_getLast? hd)
  · obtain ⟨first, rest, rfl, -⟩ := exists_of_isWordOf h
    exact List.cons_ne_nil first rest

theorem isLabelText_of_word {w : List Char} (h : isWord w = true) : IsLabelText w := by
  rcases Bool.or_eq_true_iff.mp h with hlower | hupper
  · refine isLabelText_of_isWordOf (fun c hc => Bool.or_eq_true_iff.mpr (.inr hc)) (fun b c hb hc hb' hc' => ?_) hlower
    refine ⟨fun hu => ?_, fun _ => (ascii_classes hb).1 hb'⟩
    rw [(ascii_classes hc).1 hc'] at hu
    cases hu
  · refine isLabelText_of_isWordOf (fun c hc => Bool.or_eq_true_iff.mpr (.inl hc)) (fun b c _ hc hb' hc' => ?_) hupper
    refine ⟨fun _ => .inr (Bool.or_eq_true_iff.mp hb'), fun hl => ?_⟩
    rw [(ascii_classes hc).2 hc'] at hl
    cases hl

theorem IsLabelText.joined {w cs : List Char} (hw : IsLabelText w) (hcs : IsLabelText cs) : IsLabelText (w ++ '-' :: cs) := by
  refine ⟨?_, ?_, ?_, ?_, by simp⟩
  · exact List.forall_mem_append.mpr ⟨hw.chars, List.forall_mem_cons.mpr ⟨rfl, hcs.chars⟩⟩
  · refine List.isChain_append.mpr ⟨hw.chain, List.isChain_cons.mpr ⟨fun c _ => dash_follows c, hcs.chain⟩, ?_⟩
    rintro b - c hc
    cases hc
    exact follows_dash b
  · rw [List.head?_append_of_ne_nil _ hw.ne_nil]
    exact hw.head
  · rw [List.getLast?_append_cons, List.getLast?_cons_of_ne_nil hcs.ne_nil]
    exact hcs.last

theorem isLabelText_of_isLabel {s : String} (h : isLabel s = true) : IsLabelText s.toList :=
  label_induction (motive := IsLabelText) (fun _ => isLabelText_of_word) (fun _ _ hw hcs => (isLabelText_of_word hw).joined hcs) h

/-! Snake case -/

/-- Puts a dash between a digit and a capital behind it. -/
def setOff : List Char → List Char
  | b :: c :: cs => (if b.isDigit && c.isUpper then [b, '-'] else [b]) ++ setOff (c :: cs)
  | cs => cs

/-- The label with all the dashes that snake case sees in it: `B2R` is read as `B2-R`. -/
def spelledOut (s : String) : String := String.ofList (setOff s.toList)

/-- A dash as an underscore. -/
def joint (c : Char) : Char := if c == '-' then '_' else c

theorem joint_of_ne {c : Char} (h : c ≠ '-') : joint c = c := if_neg (by simpa using h)

theorem isUpper_joint {c : Char} (h : inLabel c = true) : Text.isUpper (joint c) = c.isUpper := by
  by_cases hc : c = '-'
  · rw [hc]
    decide
  · rw [joint_of_ne hc, isUpper_of_ascii (ascii_of_inLabel h)]

theorem isLower_joint {c : Char} (h : inLabel c = true) : Text.isLower (joint c) = c.isLower := by
  by_cases hc : c = '-'
  · rw [hc]
    decide
  · rw [joint_of_ne hc, isLower_of_ascii (ascii_of_inLabel h)]

theorem joint_eq_underscore_iff {c : Char} (h : inLabel c = true) : joint c = '_' ↔ c = '-' := by
  unfold joint
  split
  · rename_i hc
    simpa using hc
  · rename_i hc
    refine ⟨?_, fun h => absurd (beq_iff_eq.mpr h) hc⟩
    rintro rfl
    cases h

/-- In a label snake case starts a word where there is a dash already, and at capitals behind digits. -/
theorem starts_iff {b c : Char} {cs : List Char} (hb : inLabel b = true) (hc : inLabel c = true) (hcs : ∀ d ∈ cs, inLabel d = true)
    (hchain : (b :: c :: cs).IsChain Follows) :
    (Text.isUpper (joint c) && joint b != '_' && (!Text.isUpper (joint b) || (((cs.map joint).head?).map Text.isLower).getD false)) =
      (b.isDigit && c.isUpper) := by
  obtain ⟨hbc, hrest⟩ := List.isChain_cons_cons.mp hchain
  rw [isUpper_joint hc, isUpper_joint hb]
  cases hupper : c.isUpper with
  | false => simp
  | true =>
    have hnext : (((cs.map joint).head?).map Text.isLower).getD false = false := by
      cases cs with
      | nil => rfl
      | cons d cs =>
        have hcd := (List.isChain_cons_cons.mp hrest).1.2
        rw [hupper] at hcd
        have hd : d.isLower = false := Bool.eq_false_iff.mpr fun hlower => by cases hcd hlower
        simpa [isLower_joint (hcs d List.mem_cons_self)] using hd
    rw [hnext]
    rcases hbc.1 hupper with rfl | hb' | hb'
    · decide
    · have hdigit : b.isDigit = false := by
        rw [← Bool.not_eq_true]
        intro hdigit
        have hfalse := (ascii_classes hb).1 (Bool.or_eq_true_iff.mpr (.inr hdigit))
        rw [hb'] at hfalse
        cases hfalse
      simp [hb', hdigit]
    · have hb'' := (ascii_classes hb).1 (Bool.or_eq_true_iff.mpr (.inr hb'))
      have hne : joint b ≠ '_' := by
        rw [Ne, joint_eq_underscore_iff hb]
        rintro rfl
        cases hb'
      simp [hb', hb'', hne]

theorem separated_cons (b c : Char) (cs : List Char) : separated (some b) (c :: cs) =
    (if Text.isUpper c && b != '_' && (!Text.isUpper b || ((cs.head?).map Text.isLower).getD false) then ['_', c] else [c]) ++
      separated (some c) cs := rfl

theorem separated_of_chain {b : Char} {cs : List Char} (hchars : ∀ c ∈ b :: cs, inLabel c = true) (hchain : (b :: cs).IsChain Follows) :
    joint b :: separated (some (joint b)) (cs.map joint) = (setOff (b :: cs)).map joint := by
  induction cs generalizing b with
  | nil => rfl
  | cons c cs ih =>
    obtain ⟨hb, hrest⟩ := List.forall_mem_cons.mp hchars
    obtain ⟨hc, hcs⟩ := List.forall_mem_cons.mp hrest
    rw [setOff, List.map_append, ← ih hrest (List.isChain_cons_cons.mp hchain).2, List.map_cons, separated_cons,
      starts_iff hb hc hcs hchain]
    split
    · rfl
    · rfl

/-- Snake case of a label: dashes go to underscores and capitals to small letters, once capitals behind digits are set off. -/
theorem toList_snakeCase {s : String} (h : IsLabelText s.toList) :
    (snakeCase s).toList = (setOff s.toList).map fun c => Text.toLower (joint c) := by
  have hjoined : (s.toList.map fun c => if c == '-' then '_' else c) = s.toList.map joint := rfl
  unfold snakeCase
  rw [String.toList_ofList, hjoined]
  cases hs : s.toList with
  | nil => rfl
  | cons c cs =>
    rw [hs] at h
    have hseparated : separated none ((c :: cs).map joint) = joint c :: separated (some (joint c)) (cs.map joint) := rfl
    rw [hseparated, separated_of_chain h.chars h.chain, List.map_map]
    rfl

theorem mem_setOff {cs : List Char} {d : Char} (h : d ∈ setOff cs) : d = '-' ∨ d ∈ cs := by
  fun_induction setOff cs with
  | case1 b c cs ih =>
    rcases List.mem_append.mp h with h | h
    · split at h
      · simp only [List.mem_cons, List.not_mem_nil, or_false] at h
        rcases h with rfl | rfl
        · exact .inr List.mem_cons_self
        · exact .inl rfl
      · exact .inr (List.mem_singleton.mp h ▸ List.mem_cons_self)
    · exact (ih h).imp_right (List.mem_cons_of_mem b)
  | case2 cs => exact .inr h

theorem head?_setOff (cs : List Char) : (setOff cs).head? = cs.head? := by
  fun_cases setOff cs with
  | case1 b c cs => split <;> rfl
  | case2 cs => rfl

theorem getLast?_setOff (cs : List Char) : (setOff cs).getLast? = cs.getLast? := by
  fun_induction setOff cs with
  | case1 b c cs ih =>
    have hne : setOff (c :: cs) ≠ [] := by
      intro hnil
      have hhead := head?_setOff (c :: cs)
      simp [hnil] at hhead
    rw [List.getLast?_append_of_ne_nil _ hne, ih, List.getLast?_cons_cons]
  | case2 cs => rfl

theorem inLabel_of_mem_setOff {s : String} (h : IsLabelText s.toList) : ∀ c ∈ setOff s.toList, inLabel c = true := by
  intro c hc
  rcases mem_setOff hc with rfl | hc
  · rfl
  · exact h.chars c hc

/-- Stands in snake case. -/
def inSnake (c : Char) : Bool := c.isLower || c.isDigit || c == '_'

theorem isAlphanum_of_inSnake {c : Char} (h : inSnake c = true) : c.isAlphanum = true ∨ c = '_' := by
  have hcases : (c.isLower || c.isDigit) = true ∨ c = '_' := by simpa [inSnake] using h
  refine hcases.imp_left fun hword => Bool.or_eq_true_iff.mpr ((Bool.or_eq_true_iff.mp hword).imp_left fun hlower => ?_)
  exact Bool.or_eq_true_iff.mpr (.inr hlower)

/-- What becomes of a character of a label. -/
theorem inSnake_toLower_joint {c : Char} (h : inLabel c = true) :
    inSnake (Text.toLower (joint c)) = true ∧ (c.isAlpha = true → (Text.toLower (joint c)).isLower = true) ∧
      (Text.toLower (joint c) = '_' → c = '-') := by
  refine forall_ascii (P := fun c => inLabel c = true → inSnake (Text.toLower (joint c)) = true ∧
    (c.isAlpha = true → (Text.toLower (joint c)).isLower = true) ∧ (Text.toLower (joint c) = '_' → c = '-')) ?_ (ascii_of_inLabel h) h
  decide +kernel

/-- Texts that `f` maps to the same are mapped to the same by all that can be told from `f`. -/
theorem map_eq_of_factor {f g h : Char → Char} {ok : Char → Bool} (hg : ∀ c, ok c = true → g (f c) = h c) {as bs : List Char}
    (has : ∀ c ∈ as, ok c = true) (hbs : ∀ c ∈ bs, ok c = true) (heq : as.map f = bs.map f) : as.map h = bs.map h := by
  have hfactor : ∀ cs : List Char, (∀ c ∈ cs, ok c = true) → cs.map h = (cs.map f).map g := by
    intro cs hcs
    rw [List.map_map]
    exact List.map_congr_left fun c hc => (hg c (hcs c hc)).symm
  rw [hfactor as has, hfactor bs hbs, heq]

/-- Lower case can be told from snake case, and the other way round. -/
theorem toLower_joint {c : Char} (h : inLabel c = true) :
    joint c.toLower = Text.toLower (joint c) ∧ (if Text.toLower (joint c) == '_' then '-' else Text.toLower (joint c)) = c.toLower := by
  refine forall_ascii (P := fun c => inLabel c = true → joint c.toLower = Text.toLower (joint c) ∧
    (if Text.toLower (joint c) == '_' then '-' else Text.toLower (joint c)) = c.toLower) ?_ (ascii_of_inLabel h) h
  decide +kernel

/-- Snake case keeps of a label what is spelled out in it, not minding letter case. -/
theorem snakeCase_eq_iff {a b : String} (ha : IsLabelText a.toList) (hb : IsLabelText b.toList) :
    snakeCase a = snakeCase b ↔ (spelledOut a).toLower = (spelledOut b).toLower := by
  have hlower : ∀ s, (spelledOut s).toLower.toList = (setOff s.toList).map Char.toLower := by
    intro s
    show ((spelledOut s).map Char.toLower).toList = _
    simp [spelledOut]
  rw [← String.toList_inj, ← String.toList_inj, toList_snakeCase ha, toList_snakeCase hb, hlower, hlower]
  constructor
  · exact map_eq_of_factor (g := fun c => if c == '_' then '-' else c) (fun c hc => (toLower_joint hc).2) (inLabel_of_mem_setOff ha)
      (inLabel_of_mem_setOff hb)
  · exact map_eq_of_factor (g := joint) (fun c hc => (toLower_joint hc).1) (inLabel_of_mem_setOff ha) (inLabel_of_mem_setOff hb)

/-- Labels in snake case: small letters, digits and underscores, a letter first and no underscore last. -/
structure IsSnakeText (cs : List Char) : Prop where
  chars : ∀ c ∈ cs, inSnake c = true
  head : ∀ c ∈ cs.head?, c.isLower = true
  last : ∀ c ∈ cs.getLast?, c ≠ '_'
  ne_nil : cs ≠ []

theorem isSnakeText_snakeCase {s : String} (h : IsLabelText s.toList) : IsSnakeText (snakeCase s).toList := by
  have hlabel := inLabel_of_mem_setOff h
  rw [toList_snakeCase h]
  refine ⟨fun d hd => ?_, fun d hd => ?_, fun d hd => ?_, fun hnil => ?_⟩
  · obtain ⟨c, hc, rfl⟩ := List.mem_map.mp hd
    exact (inSnake_toLower_joint (hlabel c hc)).1
  · rw [List.head?_map] at hd
    obtain ⟨c, hc, rfl⟩ := Option.map_eq_some_iff.mp hd
    exact (inSnake_toLower_joint (hlabel c (List.mem_of_mem_head? hc))).2.1 (h.head c (head?_setOff s.toList ▸ hc))
  · rw [List.getLast?_map] at hd
    obtain ⟨c, hc, rfl⟩ := Option.map_eq_some_iff.mp hd
    refine fun heq => h.last c (getLast?_setOff s.toList ▸ hc) ?_
    exact (inSnake_toLower_joint (hlabel c (List.mem_of_getLast? hc))).2.2 heq
  · have hhead := head?_setOff s.toList
    rw [List.map_eq_nil_iff.mp hnil] at hhead
    exact h.ne_nil (List.head?_eq_none_iff.mp hhead.symm)

end Parcelgen.Wit

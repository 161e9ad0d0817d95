import Mathlib.Data.Char
import RoleGuard.Report
import RoleGuard.Value.Json

/-! # JSON Text Is Unambiguous

    The text of a document tells where each of its values ends: a quotation
    mark inside a text is escaped, a number ends where its line ends, and
    members are separated by their line breaks. So two documents that are
    written as the same text are the same. The text is ASCII throughout,
    whatever the texts in the document are.
-/

namespace RoleGuard

/-- All characters are ASCII. -/
def Ascii (cs : List Char) : Prop :=
  ∀ c ∈ cs, c.toNat < 128

theorem ascii_append {cs ds : List Char} : Ascii (cs ++ ds) ↔ Ascii cs ∧ Ascii ds :=
  List.forall_mem_append

theorem ascii_flatMap {α : Type} {f : α → List Char} {xs : List α} (h : ∀ x ∈ xs, Ascii (f x)) :
    Ascii (xs.flatMap f) := by
  intro c hc
  obtain ⟨x, hx, hc⟩ := List.mem_flatMap.mp hc
  exact h x hx c hc

namespace Json

/-! ## Characters -/

/-- The value of a hexadecimal digit in lower case. -/
def digitValue (c : Char) : Nat :=
  if c.toNat < 58 then c.toNat - 48 else c.toNat - 87

/-- The number that four hexadecimal digits stand for. -/
def unitValue (a b c d : Char) : Nat :=
  ((digitValue a * 16 + digitValue b) * 16 + digitValue c) * 16 + digitValue d

/-- The character that begins an escaped text, and what follows it. -/
def unescape : List Char → Option (Char × List Char)
  | '\\' :: 'n' :: r => some ('\n', r)
  | '\\' :: 'r' :: r => some ('\r', r)
  | '\\' :: 't' :: r => some ('\t', r)
  | '\\' :: 'b' :: r => some ('\x08', r)
  | '\\' :: 'f' :: r => some ('\x0c', r)
  | '\\' :: 'u' :: a :: b :: c :: d :: r =>
    let high := unitValue a b c d
    if 0xD800 ≤ high && high < 0xDC00 then
      match r with
      | '\\' :: 'u' :: e :: f :: g :: h :: r =>
        let low := unitValue e f g h
        some (Char.ofNat (0x10000 + (high - 0xD800) * 0x400 + (low - 0xDC00)), r)
      | _ => none
    else some (Char.ofNat high, r)
  | '\\' :: c :: r => some (c, r)
  | c :: r => some (c, r)
  | [] => none

theorem digitValue_hexDigit : ∀ n < 16, digitValue (Text.hexDigit n) = n := by
  decide

theorem exists_unitEscape {n : Nat} (h : n < 0x10000) :
    ∃ a b c d, unitEscape n = ['\\', 'u', a, b, c, d] ∧ unitValue a b c d = n := by
  refine ⟨_, _, _, _, rfl, ?_⟩
  unfold unitValue
  rw [digitValue_hexDigit _ (by omega), digitValue_hexDigit _ (by omega),
    digitValue_hexDigit _ (by omega), digitValue_hexDigit _ (by omega)]
  omega

theorem toNat_cases (c : Char) :
    c.toNat < 0xD800 ∨ 0xDFFF < c.toNat ∧ c.toNat < 0x110000 :=
  c.valid

theorem unescape_unit {n : Nat} (h : n < 0x10000) (hlow : n < 0xD800 ∨ 0xDC00 ≤ n)
    (rest : List Char) : unescape (unitEscape n ++ rest) = some (Char.ofNat n, rest) := by
  obtain ⟨a, b, c, d, hunit, hvalue⟩ := exists_unitEscape h
  rw [hunit]
  show (if 0xD800 ≤ unitValue a b c d && unitValue a b c d < 0xDC00 then _
    else some (Char.ofNat (unitValue a b c d), rest)) = _
  rw [hvalue, if_neg (by simpa using by omega)]

theorem unescape_pair {high low : Nat} (hhigh : 0xD800 ≤ high ∧ high < 0xDC00)
    (hlow : low < 0x10000) (rest : List Char) :
    unescape (unitEscape high ++ unitEscape low ++ rest)
      = some (Char.ofNat (0x10000 + (high - 0xD800) * 0x400 + (low - 0xDC00)), rest) := by
  obtain ⟨a, b, c, d, hunit, hvalue⟩ := exists_unitEscape (n := high) (by omega)
  obtain ⟨e, f, g, h, hunit', hvalue'⟩ := exists_unitEscape hlow
  rw [hunit, hunit']
  show (if 0xD800 ≤ unitValue a b c d && unitValue a b c d < 0xDC00 then
    some (Char.ofNat (0x10000 + (unitValue a b c d - 0xD800) * 0x400
      + (unitValue e f g h - 0xDC00)), rest) else _) = _
  rw [hvalue, hvalue', if_pos (by simpa using hhigh)]

theorem unescape_plain {c : Char} (h : c ≠ '\\') (rest : List Char) :
    unescape (c :: rest) = some (c, rest) := by
  unfold unescape
  split <;> simp_all

/-- An escape tells which character it stands for, and where it ends. -/
theorem unescape_escapedChar (c : Char) (rest : List Char) :
    unescape (escapedChar c ++ rest) = some (c, rest) := by
  have hvalid := toNat_cases c
  unfold escapedChar
  dsimp only
  split
  · rename_i hc
    rcases Bool.or_eq_true_iff.mp hc with hquote | hslash
    · rw [decide_eq_true_iff.mp hquote]; rfl
    · rw [decide_eq_true_iff.mp hslash]; rfl
  split
  · rename_i hc; rw [hc]; rfl
  split
  · rename_i hc; rw [hc]; rfl
  split
  · rename_i hc; rw [hc]; rfl
  split
  · rename_i hc; rw [← Char.ofNat_toNat c, hc]; rfl
  split
  · rename_i hc; rw [← Char.ofNat_toNat c, hc]; rfl
  split
  · rename_i hquote _ _ _ _ _ _
    have hslash : c ≠ '\\' := by
      rintro rfl
      exact hquote rfl
    exact unescape_plain hslash rest
  split
  · rename_i hc
    rw [unescape_unit hc (by omega), Char.ofNat_toNat]
  · rename_i hc
    rw [unescape_pair (by omega) (by omega)]
    have hsum : 0x10000 + (0xD800 + (c.toNat - 0x10000) / 0x400 - 0xD800) * 0x400
        + (0xDC00 + (c.toNat - 0x10000) % 0x400 - 0xDC00) = c.toNat := by
      omega
    rw [hsum, Char.ofNat_toNat]

/-- Between escapes, texts are cut in one way only. -/
theorem escapedChar_append_inj {c d : Char} {xs ys : List Char}
    (h : escapedChar c ++ xs = escapedChar d ++ ys) : c = d ∧ xs = ys := by
  have hunescape := congrArg unescape h
  rw [unescape_escapedChar, unescape_escapedChar] at hunescape
  exact Prod.mk.inj (Option.some.inj hunescape)

/-- No escape begins with a quotation mark. -/
theorem exists_escapedChar (c : Char) :
    ∃ x xs, escapedChar c = x :: xs ∧ x ≠ Text.doubleQuote := by
  unfold escapedChar
  dsimp only
  split
  · exact ⟨_, _, rfl, by decide⟩
  rename_i hquote
  repeat' split
  all_goals try exact ⟨_, _, rfl, by decide⟩
  -- what is left stands for itself
  · refine ⟨_, _, rfl, ?_⟩
    rintro rfl
    exact hquote rfl

/-! ## Texts -/

theorem flatMap_escapedChar_inj {cs ds rest rest' : List Char}
    (h : cs.flatMap escapedChar ++ Text.doubleQuote :: rest
      = ds.flatMap escapedChar ++ Text.doubleQuote :: rest') : cs = ds ∧ rest = rest' := by
  induction cs generalizing ds with
  | nil =>
    cases ds with
    | nil => exact ⟨rfl, List.tail_eq_of_cons_eq h⟩
    | cons d ds =>
      obtain ⟨x, xs, hx, hne⟩ := exists_escapedChar d
      rw [List.flatMap_cons, hx] at h
      exact absurd (List.head_eq_of_cons_eq h).symm hne
  | cons c cs ih =>
    cases ds with
    | nil =>
      obtain ⟨x, xs, hx, hne⟩ := exists_escapedChar c
      rw [List.flatMap_cons, hx] at h
      exact absurd (List.head_eq_of_cons_eq h) hne
    | cons d ds =>
      rw [List.flatMap_cons, List.flatMap_cons, List.append_assoc, List.append_assoc] at h
      obtain ⟨rfl, htexts⟩ := escapedChar_append_inj h
      obtain ⟨rfl, hrest⟩ := ih htexts
      exact ⟨rfl, hrest⟩

theorem quoted_append_inj {s t : String} {rest rest' : List Char}
    (h : (quoted s).toList ++ rest = (quoted t).toList ++ rest') : s = t ∧ rest = rest' := by
  unfold quoted at h
  simp only [String.toList_ofList, List.cons_append, List.append_assoc, List.cons.injEq,
    true_and] at h
  obtain ⟨hchars, hrest⟩ := flatMap_escapedChar_inj h
  exact ⟨String.toList_inj.mp hchars, hrest⟩

/-! ## Integers -/

/-- What follows a value: nothing, or the end of its line. -/
def Ends (rest : List Char) : Prop :=
  ∀ c ∈ rest.head?, c = ',' ∨ c = '\n'

/-- A character of an integer. -/
def isNumeral (c : Char) : Bool :=
  c.isDigit || c = '-'

theorem isDigit_of_mem_toDigits {n : Nat} {c : Char} (h : c ∈ Nat.toDigits 10 n) :
    c.isDigit = true :=
  Nat.isDigit_of_mem_toDigits (by decide) (by decide) h

/-- The digits of an integer, behind a hyphen if it is negative. -/
theorem toList_toString (n : Int) : (toString n).toList
    = if n < 0 then '-' :: Nat.toDigits 10 n.natAbs else Nat.toDigits 10 n.natAbs := by
  have hdigits (k : Nat) : (toString k).toList = Nat.toDigits 10 k := String.toList_ofList
  cases n with
  | ofNat k => exact hdigits k
  | negSucc k =>
    have hsign : toString (Int.negSucc k) = "-" ++ toString (k + 1) := rfl
    rw [hsign, String.toList_append, hdigits, if_pos (Int.negSucc_lt_zero k)]
    rfl

theorem toList_toString_ne_nil (n : Int) : (toString n).toList ≠ [] := by
  rw [toList_toString]
  split
  · exact List.cons_ne_nil _ _
  · exact Nat.toDigits_ne_nil

theorem isNumeral_of_mem_toString {n : Int} {c : Char} (h : c ∈ (toString n).toList) :
    isNumeral c = true := by
  have hdigit (hc : c ∈ Nat.toDigits 10 n.natAbs) : isNumeral c = true := by
    unfold isNumeral
    rw [isDigit_of_mem_toDigits hc, Bool.true_or]
  rw [toList_toString] at h
  split at h
  · rcases List.mem_cons.mp h with rfl | hc
    · rfl
    · exact hdigit hc
  · exact hdigit h

theorem toDigits_inj {n m : Nat} (h : Nat.toDigits 10 n = Nat.toDigits 10 m) : n = m := by
  have hvalue := congrArg (fun cs => Nat.ofDigitChars 10 cs 0) h
  simpa only [Nat.ofDigitChars_ten_toDigits] using hvalue

theorem hyphen_cons_ne_toDigits (cs : List Char) (n : Nat) : '-' :: cs ≠ Nat.toDigits 10 n := by
  intro h
  have hdigit : '-'.isDigit = true := isDigit_of_mem_toDigits (h ▸ List.mem_cons_self)
  cases hdigit

theorem toString_inj {n m : Int} (h : (toString n).toList = (toString m).toList) : n = m := by
  rw [toList_toString, toList_toString] at h
  split at h <;> split at h
  · have habs := toDigits_inj (List.tail_eq_of_cons_eq h)
    omega
  · exact absurd h (hyphen_cons_ne_toDigits _ _)
  · exact absurd h.symm (hyphen_cons_ne_toDigits _ _)
  · have habs := toDigits_inj h
    omega

theorem takeWhile_isNumeral {n : Int} {rest : List Char} (hrest : Ends rest) :
    ((toString n).toList ++ rest).takeWhile isNumeral = (toString n).toList := by
  rw [List.takeWhile_append_of_pos fun c hc => isNumeral_of_mem_toString hc]
  cases rest with
  | nil => exact List.append_nil _
  | cons c rest =>
    have hstop : isNumeral c = false := by
      rcases hrest c rfl with rfl | rfl <;> rfl
    rw [List.takeWhile_cons_of_neg (by rw [hstop]; exact Bool.false_ne_true)]
    exact List.append_nil _

theorem toString_append_inj {n m : Int} {rest rest' : List Char} (hrest : Ends rest)
    (hrest' : Ends rest') (h : (toString n).toList ++ rest = (toString m).toList ++ rest') :
    n = m ∧ rest = rest' := by
  have hnumerals := congrArg (List.takeWhile isNumeral) h
  rw [takeWhile_isNumeral hrest, takeWhile_isNumeral hrest'] at hnumerals
  obtain rfl := toString_inj hnumerals
  exact ⟨rfl, List.append_cancel_left h⟩

/-! ## Members of lists and mappings -/

/-- What follows the first member: the others on lines of their own, and the end. -/
def more (closing : String) (depth : Nat) (members : List String) : List Char :=
  members.flatMap (fun m => ("," ++ newline (depth + 1)).toList ++ m.toList)
    ++ (newline depth ++ closing).toList

theorem toList_newline (depth : Nat) :
    (newline depth).toList = '\n' :: List.replicate (2 * depth) ' ' := by
  simp [newline]

theorem exists_toList_block (opening closing : String) (depth : Nat) (members : List String) :
    ∃ cs, (block opening closing depth members).toList = opening.toList ++ cs := by
  unfold block
  split
  · exact ⟨_, String.toList_append⟩
  · simp only [String.toList_append, List.append_assoc]
    exact ⟨_, rfl⟩

theorem toList_intercalate_cons (sep m : String) (ms : List String) :
    (sep.intercalate (m :: ms)).toList
      = m.toList ++ ms.flatMap fun m => sep.toList ++ m.toList := by
  induction ms generalizing m with
  | nil => simp
  | cons n ms ih =>
    rw [String.intercalate_cons_cons, String.toList_append, String.toList_append, ih]
    simp

theorem toList_block_cons (opening closing : String) (depth : Nat) (m : String)
    (ms : List String) : (block opening closing depth (m :: ms)).toList
      = opening.toList ++ (newline (depth + 1)).toList ++ m.toList ++ more closing depth ms := by
  unfold block more
  rw [List.isEmpty_cons, if_neg Bool.false_ne_true]
  simp only [String.toList_append, toList_intercalate_cons, List.append_assoc]

theorem ends_more (closing : String) (depth : Nat) (members : List String) (rest : List Char) :
    Ends (more closing depth members ++ rest) := by
  unfold more Ends
  cases members with
  | nil => simp [toList_newline]
  | cons m members => simp

section Members

variable {α : Type} {write : α → String} {ok : α → Prop} {closing : String} {depth : Nat}

/-- Nothing else is written like the item, wherever it stands. -/
def Distinct (write : α → String) (ok : α → Prop) (x : α) : Prop :=
  ∀ y, ok y → ∀ rest rest', Ends rest → Ends rest' →
    (write x).toList ++ rest = (write y).toList ++ rest' → x = y ∧ rest = rest'

theorem more_append_inj {xs ys : List α} {rest rest' : List Char}
    (hxs : ∀ x ∈ xs, Distinct write ok x) (hys : ∀ y ∈ ys, ok y)
    (h : more closing depth (xs.map write) ++ rest = more closing depth (ys.map write) ++ rest') :
    xs = ys ∧ rest = rest' := by
  induction xs generalizing ys with
  | nil =>
    cases ys with
    | nil => exact ⟨rfl, List.append_cancel_left h⟩
    | cons y ys => simp [more, toList_newline] at h
  | cons x xs ih =>
    cases ys with
    | nil => simp [more, toList_newline] at h
    | cons y ys =>
      obtain ⟨hx, hrestx⟩ := List.forall_mem_cons.mp hxs
      obtain ⟨hy, hresty⟩ := List.forall_mem_cons.mp hys
      have hcons (z : α) (zs : List α) (rest : List Char) :
          more closing depth ((z :: zs).map write) ++ rest
            = ("," ++ newline (depth + 1)).toList
              ++ ((write z).toList ++ (more closing depth (zs.map write) ++ rest)) := by
        simp [more]
      rw [hcons, hcons] at h
      obtain ⟨rfl, htail⟩ :=
        hx y hy _ _ (ends_more _ _ _ _) (ends_more _ _ _ _) (List.append_cancel_left h)
      obtain ⟨rfl, hrest⟩ := ih hrestx hresty htail
      exact ⟨rfl, hrest⟩

theorem block_append_inj {opening : String} {b : Char} {xs ys : List α} {rest rest' : List Char}
    (hclosing : closing.toList = [b]) (hb : b ≠ '\n') (hxs : ∀ x ∈ xs, Distinct write ok x)
    (hys : ∀ y ∈ ys, ok y)
    (h : (block opening closing depth (xs.map write)).toList ++ rest
      = (block opening closing depth (ys.map write)).toList ++ rest') :
    xs = ys ∧ rest = rest' := by
  have hnil : (block opening closing depth []).toList = opening.toList ++ [b] := by
    simp [block, hclosing]
  cases xs with
  | nil =>
    cases ys with
    | nil => exact ⟨rfl, List.append_cancel_left h⟩
    | cons y ys =>
      rw [List.map_nil, List.map_cons, hnil, toList_block_cons, toList_newline] at h
      simp [hb] at h
  | cons x xs =>
    cases ys with
    | nil =>
      rw [List.map_nil, List.map_cons, hnil, toList_block_cons, toList_newline] at h
      simp [Ne.symm hb] at h
    | cons y ys =>
      obtain ⟨hx, hrestx⟩ := List.forall_mem_cons.mp hxs
      obtain ⟨hy, hresty⟩ := List.forall_mem_cons.mp hys
      rw [List.map_cons, List.map_cons, toList_block_cons, toList_block_cons] at h
      simp only [List.append_assoc] at h
      have hmembers := List.append_cancel_left (List.append_cancel_left h)
      obtain ⟨rfl, htail⟩ := hx y hy _ _ (ends_more _ _ _ _) (ends_more _ _ _ _) hmembers
      obtain ⟨rfl, hrest⟩ := more_append_inj hrestx hresty htail
      exact ⟨rfl, hrest⟩

end Members

/-! ## ASCII -/

theorem ascii_hexChars (width n : Nat) : Ascii (Text.hexChars width n) := by
  have hdigit : ∀ d < 16, (Text.hexDigit d).toNat < 128 := by decide
  induction width generalizing n with
  | zero => exact nofun
  | succ width ih =>
    rw [Text.hexChars, ascii_append]
    refine ⟨ih _, ?_⟩
    intro c hc
    obtain rfl := List.mem_singleton.mp hc
    exact hdigit _ (Nat.mod_lt _ (by decide))

theorem ascii_unitEscape (n : Nat) : Ascii (unitEscape n) :=
  List.forall_mem_cons.mpr ⟨by decide, List.forall_mem_cons.mpr ⟨by decide, ascii_hexChars 4 n⟩⟩

theorem ascii_escapedChar (c : Char) : Ascii (escapedChar c) := by
  unfold escapedChar
  dsimp only
  split
  · rename_i hmark
    simp only [Bool.or_eq_true, decide_eq_true_eq] at hmark
    rcases hmark with rfl | rfl <;> simp [Ascii, Text.doubleQuote]
  · repeat' split
    all_goals try simp [Ascii]; done
    -- what is left stands for itself, or is escaped as one unit or as two
    · rename_i hprintable
      simp only [Bool.and_eq_true, decide_eq_true_eq] at hprintable
      intro d hd
      obtain rfl := List.mem_singleton.mp hd
      omega
    · exact ascii_unitEscape _
    · exact ascii_append.mpr ⟨ascii_unitEscape _, ascii_unitEscape _⟩

theorem ascii_quoted (s : String) : Ascii (quoted s).toList := by
  have hmark : Ascii [Text.doubleQuote] := by simp [Ascii, Text.doubleQuote]
  unfold quoted
  rw [String.toList_ofList, ascii_append]
  refine ⟨List.forall_mem_cons.mpr ⟨by decide, ?_⟩, hmark⟩
  exact ascii_flatMap fun c _ => ascii_escapedChar c

theorem ascii_toString (n : Int) : Ascii (toString n).toList := by
  intro c hc
  have hnumeral := isNumeral_of_mem_toString hc
  unfold isNumeral Char.isDigit at hnumeral
  simp only [Bool.or_eq_true, Bool.and_eq_true, decide_eq_true_eq] at hnumeral
  rcases hnumeral with ⟨-, hle⟩ | rfl
  · have : c.toNat ≤ 57 := hle
    omega
  · decide

theorem ascii_newline (depth : Nat) : Ascii (newline depth).toList := by
  rw [toList_newline]
  refine List.forall_mem_cons.mpr ⟨by decide, ?_⟩
  intro c hc
  rw [(List.mem_replicate.mp hc).2]
  decide

theorem ascii_block {opening closing : String} (hopening : Ascii opening.toList)
    (hclosing : Ascii closing.toList) (depth : Nat) {members : List String}
    (h : ∀ m ∈ members, Ascii m.toList) :
    Ascii (block opening closing depth members).toList := by
  cases members with
  | nil =>
    have hblock : block opening closing depth [] = opening ++ closing := rfl
    rw [hblock, String.toList_append, ascii_append]
    exact ⟨hopening, hclosing⟩
  | cons m ms =>
    obtain ⟨hm, hms⟩ := List.forall_mem_cons.mp h
    have hcomma : Ascii ("," : String).toList := by simp [Ascii]
    rw [toList_block_cons]
    unfold more
    simp only [String.toList_append, ascii_append]
    refine ⟨⟨⟨hopening, ascii_newline _⟩, hm⟩, ascii_flatMap fun m' hm' => ?_, ascii_newline _,
      hclosing⟩
    simp only [ascii_append]
    exact ⟨⟨hcomma, ascii_newline _⟩, hms m' hm'⟩

end Json

namespace Value

/-! ## Documents -/

/-- The document is made of texts, integers, truth values, nulls, lists and mappings by texts. -/
inductive Plain : Value → Prop where
  /-- no value -/
  | null : Plain .null
  /-- a truth value -/
  | bool (b : Bool) : Plain (.bool b)
  /-- an integer -/
  | int (n : Int) : Plain (.int n)
  /-- a text -/
  | text (s : String) : Plain (.text s)
  /-- a list of such documents -/
  | list {items : List Value} (h : ∀ v ∈ items, Plain v) : Plain (.list items)
  /-- a mapping from texts to such documents -/
  | map {entries : List (Value × Value)} (hkeys : ∀ e ∈ entries, ∃ s, e.1 = .text s)
      (h : ∀ e ∈ entries, Plain e.2) : Plain (.map entries)

/-- An entry of such a mapping. -/
def PlainEntry (e : Value × Value) : Prop :=
  (∃ s, e.1 = .text s) ∧ Plain e.2

/-- An entry of a mapping as JSON. -/
def entryAt (depth : Nat) (e : Value × Value) : String :=
  Json.quoted e.1.display ++ ": " ++ jsonAt depth e.2

theorem jsonItems_eq_map (depth : Nat) (vs : List Value) :
    jsonItems depth vs = vs.map (jsonAt depth) := by
  induction vs with
  | nil => rfl
  | cons v vs ih => rw [jsonItems, ih, List.map_cons]

theorem jsonEntries_eq_map (depth : Nat) (es : List (Value × Value)) :
    jsonEntries depth es = es.map (entryAt depth) := by
  induction es with
  | nil => rfl
  | cons e es ih => rw [jsonEntries, ih, List.map_cons, entryAt]

/-- A number for each kind of document. -/
def shape : Value → Nat
  | .null => 0
  | .bool _ => 1
  | .int _ => 2
  | .text _ => 3
  | .list _ => 4
  | .map _ => 5
  | _ => 6

/-- The kind of document that begins with the character. -/
def shapeOf (c : Char) : Nat :=
  if c = 'n' then 0
  else if c = 't' then 1
  else if c = 'f' then 1
  else if c = Text.doubleQuote then 3
  else if c = '[' then 4
  else if c = '\x7b' then 5
  else 2

theorem shapeOf_isNumeral {c : Char} (h : Json.isNumeral c = true) : shapeOf c = 2 := by
  have hne {d : Char} (hd : Json.isNumeral d = false) : c ≠ d := by
    rintro rfl
    rw [h] at hd
    cases hd
  unfold shapeOf
  rw [if_neg (hne rfl), if_neg (hne rfl), if_neg (hne rfl), if_neg (hne rfl), if_neg (hne rfl),
    if_neg (hne rfl)]

/-- The first character tells the kind. -/
theorem exists_jsonAt {v : Value} (h : Plain v) (depth : Nat) :
    ∃ c cs, (jsonAt depth v).toList = c :: cs ∧ shapeOf c = shape v := by
  cases h with
  | null =>
    rw [jsonAt]
    exact ⟨_, _, rfl, rfl⟩
  | bool b =>
    rw [jsonAt]
    cases b <;> exact ⟨_, _, rfl, rfl⟩
  | int n =>
    rw [jsonAt]
    obtain ⟨c, cs, hn⟩ := List.exists_cons_of_ne_nil (Json.toList_toString_ne_nil n)
    refine ⟨c, cs, hn, shapeOf_isNumeral (Json.isNumeral_of_mem_toString (n := n) ?_)⟩
    rw [hn]
    exact List.mem_cons_self
  | text s =>
    rw [jsonAt, Json.quoted, String.toList_ofList]
    exact ⟨_, _, rfl, rfl⟩
  | list _ =>
    rw [jsonAt]
    obtain ⟨cs, hblock⟩ := Json.exists_toList_block "[" "]" depth _
    exact ⟨_, _, hblock, rfl⟩
  | map _ _ =>
    rw [jsonAt]
    obtain ⟨cs, hblock⟩ := Json.exists_toList_block openBrace closeBrace depth _
    exact ⟨_, _, hblock, rfl⟩

theorem shape_eq_of_append {v w : Value} (hv : Plain v) (hw : Plain w) {depth : Nat}
    {rest rest' : List Char}
    (h : (jsonAt depth v).toList ++ rest = (jsonAt depth w).toList ++ rest') :
    shape v = shape w := by
  obtain ⟨c, cs, hc, hshape⟩ := exists_jsonAt hv depth
  obtain ⟨d, ds, hd, hshape'⟩ := exists_jsonAt hw depth
  rw [hc, hd] at h
  rw [← hshape, ← hshape', List.head_eq_of_cons_eq h]

theorem distinct_entryAt {key : String} {v : Value} {depth : Nat}
    (h : Json.Distinct (jsonAt depth) Plain v) :
    Json.Distinct (entryAt depth) PlainEntry (.text key, v) := by
  rintro ⟨_, w⟩ ⟨⟨key', rfl⟩, hw⟩ rest rest' hrest hrest' happend
  simp only [entryAt, display, String.toList_append, List.append_assoc] at happend
  obtain ⟨rfl, hvalues⟩ := Json.quoted_append_inj happend
  obtain ⟨rfl, hrests⟩ := h w hw rest rest' hrest hrest' (List.append_cancel_left hvalues)
  exact ⟨rfl, hrests⟩

/-- Where a document ends in a text, and which document it is, can be read off the text. -/
theorem distinct_jsonAt {v : Value} (h : Plain v) (depth : Nat) :
    Json.Distinct (jsonAt depth) Plain v := by
  -- the kinds agree by the first character, so one document of each kind remains
  induction h generalizing depth with
  | null =>
    intro w hw rest rest' _ _ happend
    have hshape := shape_eq_of_append .null hw happend
    cases hw with
    | null => exact ⟨rfl, List.append_cancel_left happend⟩
    | _ => cases hshape
  | bool b =>
    intro w hw rest rest' _ _ happend
    have hshape := shape_eq_of_append (.bool b) hw happend
    cases hw with
    | bool b' =>
      rw [jsonAt, jsonAt] at happend
      cases b <;> cases b' <;> simp_all
    | _ => cases hshape
  | int n =>
    intro w hw rest rest' hrest hrest' happend
    have hshape := shape_eq_of_append (.int n) hw happend
    cases hw with
    | int m =>
      rw [jsonAt, jsonAt] at happend
      obtain ⟨rfl, hrests⟩ := Json.toString_append_inj hrest hrest' happend
      exact ⟨rfl, hrests⟩
    | _ => cases hshape
  | text s =>
    intro w hw rest rest' _ _ happend
    have hshape := shape_eq_of_append (.text s) hw happend
    cases hw with
    | text t =>
      rw [jsonAt, jsonAt] at happend
      obtain ⟨rfl, hrests⟩ := Json.quoted_append_inj happend
      exact ⟨rfl, hrests⟩
    | _ => cases hshape
  | list hitems ih =>
    intro w hw rest rest' _ _ happend
    have hshape := shape_eq_of_append (.list hitems) hw happend
    cases hw with
    | list hitems' =>
      rw [jsonAt, jsonAt, jsonItems_eq_map, jsonItems_eq_map] at happend
      obtain ⟨rfl, hrests⟩ := Json.block_append_inj rfl (by decide)
        (fun v hv => ih v hv (depth + 1)) hitems' happend
      exact ⟨rfl, hrests⟩
    | _ => cases hshape
  | @map entries hkeys hvalues ih =>
    intro w hw rest rest' _ _ happend
    have hshape := shape_eq_of_append (.map hkeys hvalues) hw happend
    cases hw with
    | map hkeys' hvalues' =>
      rw [jsonAt, jsonAt, jsonEntries_eq_map, jsonEntries_eq_map] at happend
      have hentries : ∀ e ∈ entries, Json.Distinct (entryAt (depth + 1)) PlainEntry e := by
        rintro ⟨k, v⟩ he
        obtain ⟨key, rfl⟩ := hkeys _ he
        exact distinct_entryAt (ih _ he (depth + 1))
      obtain ⟨rfl, hrests⟩ := Json.block_append_inj rfl (by decide) hentries
        (fun e he => ⟨hkeys' e he, hvalues' e he⟩) happend
      exact ⟨rfl, hrests⟩
    | _ => cases hshape

/-- Documents that are written as the same text are the same. -/
theorem json_inj {v w : Value} (hv : Plain v) (hw : Plain w) (h : v.json = w.json) : v = w :=
  (distinct_jsonAt hv 0 w hw [] [] (by simp [Json.Ends]) (by simp [Json.Ends])
    (congrArg (fun s => s.toList ++ []) h)).1

theorem ascii_jsonAt {v : Value} (h : Plain v) (depth : Nat) :
    Ascii (jsonAt depth v).toList := by
  induction h generalizing depth with
  | null =>
    rw [jsonAt]
    simp [Ascii]
  | bool b =>
    rw [jsonAt]
    cases b <;> simp [Ascii]
  | int n =>
    rw [jsonAt]
    exact Json.ascii_toString n
  | text s =>
    rw [jsonAt]
    exact Json.ascii_quoted s
  | list _ ih =>
    rw [jsonAt, jsonItems_eq_map]
    refine Json.ascii_block (by simp [Ascii]) (by simp [Ascii]) depth ?_
    intro m hm
    obtain ⟨v, hv, rfl⟩ := List.mem_map.mp hm
    exact ih v hv (depth + 1)
  | map hkeys _ ih =>
    rw [jsonAt, jsonEntries_eq_map]
    refine Json.ascii_block (by simp [Ascii, openBrace]) (by simp [Ascii, closeBrace])
      depth ?_
    intro m hm
    obtain ⟨e, he, rfl⟩ := List.mem_map.mp hm
    have hcolon : Ascii (": " : String).toList := by simp [Ascii]
    simp only [entryAt, String.toList_append, ascii_append]
    exact ⟨⟨Json.ascii_quoted _, hcolon⟩, ih e he (depth + 1)⟩

/-- **Documents are written in ASCII**, so every console can print them. -/
theorem ascii_json {v : Value} (h : Plain v) : Ascii v.json.toList :=
  ascii_jsonAt h 0

theorem plain_texts (items : List String) : Plain (.texts items) := by
  refine .list fun v hv => ?_
  obtain ⟨s, -, rfl⟩ := List.mem_map.mp hv
  exact .text s

theorem plain_record {fields : List (String × Value)} (h : ∀ f ∈ fields, Plain f.2) :
    Plain (.record fields) := by
  refine .map (fun e he => ?_) fun e he => ?_
  · obtain ⟨f, -, rfl⟩ := List.mem_map.mp he
    exact ⟨f.1, rfl⟩
  · obtain ⟨f, hf, rfl⟩ := List.mem_map.mp he
    exact h f hf

end Value

/-! ## Reports -/

open Value

theorem Rule.plain_toValue (r : Rule) : Plain r.toValue := by
  refine plain_record fun f hf => ?_
  rcases List.mem_append.mp hf with hf | hf
  · simp only [List.mem_cons, List.not_mem_nil, or_false] at hf
    rcases hf with rfl | rfl | rfl <;> exact plain_texts _
  · split at hf
    · cases hf
    · obtain rfl := List.mem_singleton.mp hf
      exact plain_texts _

theorem Finding.plain_toValue (f : Finding) : Plain f.toValue := by
  refine plain_record fun field hfield => ?_
  simp only [List.mem_cons, List.not_mem_nil, or_false] at hfield
  rcases hfield with rfl | rfl | rfl | rfl
  · exact .text _
  · exact .text _
  · refine .list fun v hv => ?_
    obtain ⟨r, -, rfl⟩ := List.mem_map.mp hv
    exact r.plain_toValue
  · exact plain_texts _

theorem Report.plain_toValue (r : Report) : Plain r.toValue := by
  refine plain_record fun field hfield => ?_
  simp only [List.mem_cons, List.not_mem_nil, or_false] at hfield
  rcases hfield with rfl | rfl | rfl | rfl
  · exact .bool _
  · exact plain_texts _
  · exact .int _
  · refine .list fun v hv => ?_
    obtain ⟨f, -, rfl⟩ := List.mem_map.mp hv
    exact f.plain_toValue

/-- What is printed is the document, and no other document is printed like it. -/
structure Prints (stdout : String) (document : Value) : Prop where
  /-- a document of JSON -/
  plain : Plain document
  /-- its text is printed, and the line ends -/
  text : stdout = document.json ++ "\n"
  /-- the text is that of no other document -/
  unique : ∀ other, Plain other → stdout = other.json ++ "\n" → other = document

theorem Report.prints (r : Report) : Prints (r.toValue.json ++ "\n") r.toValue where
  plain := r.plain_toValue
  text := rfl
  unique other hother htext := by
    rw [String.append_left_inj] at htext
    exact (json_inj r.plain_toValue hother htext).symm

end RoleGuard

import AdminShell.Json.Parse
import AdminShell.Json.Print

/-! # Printed documents read back

The compact text of a document without numbers or syntax faults reads back as the same
document with the fields of each object in key order (`Node.sorted`), as long as it nests at
most `maxDepth` containers; a deeper text stops at the reader's recursion limit, and the
tree it gives holds that fault. Strings survive their escapes: the reader undoes each of the
printer's escapes character by character.

The reader is taken one transition at a time (an opening bracket, the first item, an item
after a comma, a closing bracket, and the same for objects); the reading of whole texts,
the one that succeeds and the one that stops too deep, are inductions over these steps.
-/

namespace AdminShell.Json

open Cursor

set_option autoImplicit false

/-! ## The cursor -/

theorem advance_rest (c : Cursor) (ch : Char) (more : List Char) (h : c.rest = ch :: more) :
    c.advance.rest = more := by
  simp only [advance, h]
  split <;> rfl

@[simp] theorem advance_depth (c : Cursor) : c.advance.depth = c.depth := by
  simp only [advance]
  split
  · rfl
  · split <;> rfl

theorem skipBlank_of_cons (c : Cursor) (ch : Char) (more : List Char) (h : c.rest = ch :: more)
    (h1 : ch ≠ ' ') (h2 : ch ≠ '\n') (h3 : ch ≠ '\t') (h4 : ch ≠ '\r') : c.skipBlank = c := by
  simp [skipBlank, h, h1, h2, h3, h4]

theorem readIdent_append (c : Cursor) (xs rest : List Char) (h : c.rest = xs ++ rest) :
    ∃ c', readIdent c xs = .ok c' ∧ c'.rest = rest ∧ c'.depth = c.depth := by
  induction xs generalizing c with
  | nil => exact ⟨c, rfl, by simpa using h, rfl⟩
  | cons x xs ih =>
    obtain ⟨c', hRead, hRest, hDepth⟩ := ih c.advance (advance_rest c x _ (by simpa using h))
    refine ⟨c', ?_, hRest, by simpa using hDepth⟩
    simp [readIdent, peek, h, hRead]

/-! ## Strings -/

theorem hexValue_hexDigit : ∀ n, n < 16 → hexValue (hexDigit n) = some n := by decide

theorem readUnicodeEscape_control (c : Cursor) (ch : Char) (more : List Char)
    (hControl : ch.toNat < 0x20)
    (h : c.rest = ['0', '0', hexDigit (ch.toNat / 16), hexDigit (ch.toNat % 16)] ++ more) :
    ∃ c', c'.rest = more ∧ c'.depth = c.depth ∧ readUnicodeEscape c = .ok (ch, c') := by
  have hZero : hexValue '0' = some 0 := rfl
  have hHigh := hexValue_hexDigit (ch.toNat / 16) (by omega)
  have hLow := hexValue_hexDigit (ch.toNat % 16) (by omega)
  have hCode : ((0 * 16 + 0) * 16 + ch.toNat / 16) * 16 + ch.toNat % 16 = ch.toNat := by omega
  -- a code below 0x20 is no surrogate, so the escape stands alone
  have hNotTrail : ¬ 0xDC00 ≤ ch.toNat := by omega
  have hBelow : ch.toNat < 0xD800 := by omega
  refine ⟨{ c with rest := more, column := c.column + 4 }, rfl, rfl, ?_⟩
  simp only [readUnicodeEscape, readHex4, h, List.cons_append, List.nil_append, hZero, hHigh,
    hLow, hCode]
  simp [hNotTrail, hBelow, Char.ofNat_toNat]

theorem readStringBody_escapeChar (fuel : Nat) (c : Cursor) (acc : List Char) (ch : Char)
    (more : List Char) (h : c.rest = escapeChar ch ++ more) :
    ∃ c', c'.rest = more ∧ c'.depth = c.depth ∧
      readStringBody (fuel + 1) c acc = readStringBody fuel c' (ch :: acc) := by
  by_cases hShort : ch = '"' ∨ ch = '\\' ∨ ch = '\n' ∨ ch = '\r' ∨ ch = '\t' ∨
      ch = Char.ofNat 8 ∨ ch = Char.ofNat 12
  · -- the short escapes: a backslash and a letter naming the character, read in two steps
    obtain ⟨e, hEsc, hRead⟩ : ∃ e, escapeChar ch = ['\\', e] ∧
        ∀ c' : Cursor, c'.rest = ['\\', e] ++ more →
          readStringBody (fuel + 1) c' acc = readStringBody fuel c'.advance.advance (ch :: acc) := by
      rcases hShort with rfl | rfl | rfl | rfl | rfl | rfl | rfl <;>
        exact ⟨_, rfl, fun c' hc' => by simp [readStringBody, peek, hc', advance]⟩
    rw [hEsc] at h
    exact ⟨c.advance.advance, advance_rest _ _ more (advance_rest c '\\' _ h), by simp,
      hRead c h⟩
  · simp only [not_or] at hShort
    obtain ⟨hQuote, hBackslash, hLine, hReturn, hTab, hBack, hFeed⟩ := hShort
    have hCode : ∀ n, ch ≠ Char.ofNat n → ch.toNat ≠ n := fun n hNe hEq =>
      hNe (by rw [← hEq, Char.ofNat_toNat])
    rw [escapeChar, if_neg hQuote, if_neg hBackslash, if_neg hLine, if_neg hReturn, if_neg hTab,
      if_neg (hCode 8 hBack), if_neg (hCode 12 hFeed)] at h
    by_cases hControl : ch.toNat < 0x20
    · -- other controls go through a `\u00xx` escape
      rw [if_pos hControl] at h
      obtain ⟨c', hRest, hDepth, hRead⟩ := readUnicodeEscape_control c.advance.advance ch more
        hControl (by simp [advance, h])
      refine ⟨c', hRest, by simp [hDepth, advance, h], ?_⟩
      simp [readStringBody, peek, h, advance] at hRead ⊢
      simp [hRead]
    · -- every other character stands for itself
      rw [if_neg hControl] at h
      refine ⟨c.advance, advance_rest c ch more (by simpa using h), advance_depth c, ?_⟩
      simp [readStringBody, peek, h, hControl]

theorem escapeChar_ne_nil (ch : Char) : escapeChar ch ≠ [] := by
  unfold escapeChar
  repeat' split
  all_goals simp

theorem length_le_escaped (cs : List Char) : cs.length ≤ (cs.flatMap escapeChar).length := by
  induction cs with
  | nil => simp
  | cons ch cs ih =>
    have hPos : 0 < (escapeChar ch).length := List.length_pos_iff.mpr (escapeChar_ne_nil ch)
    simp only [List.flatMap_cons, List.length_append, List.length_cons]
    omega

theorem readStringBody_escaped (cs : List Char) (fuel : Nat) (c : Cursor) (acc rest : List Char)
    (h : c.rest = cs.flatMap escapeChar ++ '"' :: rest) (hFuel : cs.length < fuel) :
    ∃ c', c'.rest = rest ∧ c'.depth = c.depth ∧
      readStringBody fuel c acc = .ok (String.ofList (acc.reverse ++ cs), c') := by
  induction cs generalizing fuel c acc with
  | nil =>
    obtain ⟨fuel, rfl⟩ : ∃ f, fuel = f + 1 := ⟨fuel - 1, by simp at hFuel; omega⟩
    simp only [List.flatMap_nil, List.nil_append] at h
    exact ⟨c.advance, advance_rest c _ _ h, advance_depth c, by simp [readStringBody, peek, h]⟩
  | cons ch cs ih =>
    obtain ⟨fuel, rfl⟩ : ∃ f, fuel = f + 1 := ⟨fuel - 1, by simp at hFuel; omega⟩
    rw [List.flatMap_cons, List.append_assoc] at h
    obtain ⟨c₁, hRest₁, hDepth₁, hStep⟩ := readStringBody_escapeChar fuel c acc ch _ h
    obtain ⟨c', hRest, hDepth, hRead⟩ := ih fuel c₁ (ch :: acc) hRest₁ (by simp at hFuel; omega)
    refine ⟨c', hRest, hDepth.trans hDepth₁, ?_⟩
    rw [hStep, hRead]
    simp

theorem readString_quote (s : String) (c : Cursor) (rest : List Char)
    (h : c.rest = s.toList.flatMap escapeChar ++ '"' :: rest) :
    ∃ c', c'.rest = rest ∧ c'.depth = c.depth ∧ readString c = .ok (s, c') := by
  have hFuel : s.toList.length < c.rest.length + 1 := by
    have := length_le_escaped s.toList
    rw [h]
    simp only [List.length_append, List.length_cons]
    omega
  obtain ⟨c', hRest, hDepth, hRead⟩ := readStringBody_escaped s.toList _ c [] rest h hFuel
  exact ⟨c', hRest, hDepth, by simpa [readString] using hRead⟩

/-! ## Printable documents and their text -/

/-- Orders fields by key, keeping the order of fields with equal keys, as the printer does. -/
def byKey {α : Type} (fields : List (String × α)) : List (String × α) :=
  fields.mergeSort (fun a b => decide (a.1 ≤ b.1))

mutual

def Node.Printable : Node → Prop
  | .null | .bool _ | .str _ => True
  | .num _ | .bad _ => False
  | .arr items stop => stop = none ∧ itemsPrintable items
  | .obj fields stop => stop = none ∧ fieldsPrintable fields

def itemsPrintable : List Node → Prop
  | [] => True
  | n :: ns => n.Printable ∧ itemsPrintable ns

def fieldsPrintable : List (String × Node) → Prop
  | [] => True
  | (_, n) :: ns => n.Printable ∧ fieldsPrintable ns

end

mutual

def Node.sorted : Node → Node
  | .arr items stop => .arr (sortedItems items) stop
  | .obj fields stop => .obj (byKey (sortedFields fields)) stop
  | n => n

def sortedItems : List Node → List Node
  | [] => []
  | n :: ns => n.sorted :: sortedItems ns

def sortedFields : List (String × Node) → List (String × Node)
  | [] => []
  | (k, n) :: ns => (k, n.sorted) :: sortedFields ns

end

theorem itemsPrintable_iff (items : List Node) :
    itemsPrintable items ↔ ∀ n ∈ items, n.Printable := by
  induction items with
  | nil => simp [itemsPrintable]
  | cons n ns ih => simp [itemsPrintable, ih]

theorem fieldsPrintable_iff (fields : List (String × Node)) :
    fieldsPrintable fields ↔ ∀ p ∈ fields, p.2.Printable := by
  induction fields with
  | nil => simp [fieldsPrintable]
  | cons p ps ih => simp [fieldsPrintable, ih]

theorem sortedItems_eq_map (items : List Node) : sortedItems items = items.map Node.sorted := by
  induction items with
  | nil => rfl
  | cons n ns ih => simp [sortedItems, ih]

theorem sortedFields_eq_map (fields : List (String × Node)) :
    sortedFields fields = fields.map (fun p => (p.1, p.2.sorted)) := by
  induction fields with
  | nil => rfl
  | cons p ps ih => simp [sortedFields, ih]

theorem byKey_map {α β : Type} (fields : List (String × α)) (f : α → β) :
    byKey (fields.map (fun p => (p.1, f p.2))) = (byKey fields).map (fun p => (p.1, f p.2)) := by
  unfold byKey
  exact (@List.map_mergeSort _ _ (fun a b => decide (a.1 ≤ b.1)) (fun a b => decide (a.1 ≤ b.1))
    (fun p => (p.1, f p.2)) fields (fun _ _ _ _ => rfl)).symm

theorem sorted_obj (fields : List (String × Node)) (stop : Option Stop) :
    (Node.obj fields stop).sorted = .obj ((byKey fields).map (fun p => (p.1, p.2.sorted))) stop := by
  rw [Node.sorted, sortedFields_eq_map, byKey_map]

theorem depth_le_itemsDepth (items : List Node) (x : Node) (hx : x ∈ items) :
    x.depth ≤ Node.itemsDepth items := by
  induction items with
  | nil => cases hx
  | cons n ns ih =>
    rw [Node.itemsDepth]
    cases hx with
    | head => exact Nat.le_max_left _ _
    | tail _ hx => exact Nat.le_trans (ih hx) (Nat.le_max_right _ _)

theorem depth_le_fieldsDepth (fields : List (String × Node)) (p : String × Node)
    (hp : p ∈ fields) : p.2.depth ≤ Node.fieldsDepth fields := by
  induction fields with
  | nil => cases hp
  | cons q qs ih =>
    obtain ⟨k, v⟩ := q
    rw [Node.fieldsDepth]
    cases hp with
    | head => exact Nat.le_max_left _ _
    | tail _ hp => exact Nat.le_trans (ih hp) (Nat.le_max_right _ _)

theorem exists_itemsDepth (items : List Node) (hItems : items ≠ []) :
    ∃ x ∈ items, x.depth = Node.itemsDepth items := by
  induction items with
  | nil => exact absurd rfl hItems
  | cons n ns ih =>
    rw [Node.itemsDepth]
    by_cases hDeeper : n.depth ≥ Node.itemsDepth ns
    · exact ⟨n, List.mem_cons_self, by omega⟩
    · have hNonempty : ns ≠ [] := by
        rintro rfl
        simp [Node.itemsDepth] at hDeeper
      obtain ⟨x, hx, hDepth⟩ := ih hNonempty
      exact ⟨x, List.mem_cons_of_mem n hx, by omega⟩

theorem exists_fieldsDepth (fields : List (String × Node)) (hFields : fields ≠ []) :
    ∃ p ∈ fields, p.2.depth = Node.fieldsDepth fields := by
  induction fields with
  | nil => exact absurd rfl hFields
  | cons q qs ih =>
    obtain ⟨k, v⟩ := q
    rw [Node.fieldsDepth]
    by_cases hDeeper : v.depth ≥ Node.fieldsDepth qs
    · exact ⟨(k, v), List.mem_cons_self, by simp; omega⟩
    · have hNonempty : qs ≠ [] := by
        rintro rfl
        simp [Node.fieldsDepth] at hDeeper
      obtain ⟨p, hp, hDepth⟩ := ih hNonempty
      exact ⟨p, List.mem_cons_of_mem _ hp, by omega⟩

/-- A field as the printer writes it: the quoted key, a colon and the value. -/
def fieldText (p : String × Node) : List Char := (quote p.1 ++ ":" ++ p.2.compact).toList

def commaField (p : String × Node) : List Char := ',' :: fieldText p

theorem fieldText_eq (k : String) (v : Node) :
    fieldText (k, v) = '"' :: (k.toList.flatMap escapeChar ++ '"' :: ':' :: v.compact.toList) := by
  simp [fieldText, quote]

theorem intercalate_comma (a : List Char) (l : List (List Char)) :
    [','].intercalate (a :: l) = a ++ l.flatMap (',' :: ·) := by
  induction l generalizing a with
  | nil => simp
  | cons b l ih =>
    rw [List.intercalate_cons_cons, ih]
    simp

theorem compactItems_eq_map (items : List Node) : compactItems items = items.map Node.compact := by
  induction items with
  | nil => rfl
  | cons n ns ih => simp [compactItems, ih]

theorem compactFields_eq_map (fields : List (String × Node)) :
    compactFields fields = fields.map (fun p => (p.1, p.2.compact)) := by
  induction fields with
  | nil => rfl
  | cons p ps ih => simp [compactFields, ih]

theorem sortFields_compactFields (fields : List (String × Node)) :
    sortFields (compactFields fields) = (byKey fields).map (fun p => (p.1, p.2.compact)) := by
  rw [compactFields_eq_map]
  exact byKey_map fields Node.compact

theorem compact_arr (items : List Node) (stop : Option Stop) :
    (Node.arr items stop).compact.toList =
      '[' :: ([','].intercalate (items.map (String.toList ∘ Node.compact)) ++ [']']) := by
  simp only [Node.compact, String.toList_append, String.toList_intercalate, compactItems_eq_map,
    List.map_map]
  rfl

theorem compact_obj (fields : List (String × Node)) (stop : Option Stop) :
    (Node.obj fields stop).compact.toList =
      '{' :: ([','].intercalate ((byKey fields).map fieldText) ++ ['}']) := by
  have hTexts : ((sortFields (compactFields fields)).map (fun p => quote p.1 ++ ":" ++ p.2)).map
      String.toList = (byKey fields).map fieldText := by
    rw [sortFields_compactFields, List.map_map, List.map_map]
    rfl
  simp only [Node.compact, String.toList_append, String.toList_intercalate, hTexts]
  rfl

/-! ## One step of the reader -/

abbrev Opens (ch : Char) : Prop :=
  ch ≠ ' ' ∧ ch ≠ '\n' ∧ ch ≠ '\t' ∧ ch ≠ '\r' ∧ ch ≠ ']' ∧ ch ≠ '}' ∧ ch ≠ ','

theorem compact_cons (n : Node) (hn : n.Printable) :
    ∃ ch more, n.compact.toList = ch :: more ∧ Opens ch := by
  cases n with
  | null => exact ⟨'n', _, rfl, by decide⟩
  | bool b => cases b <;> exact ⟨_, _, rfl, by decide⟩
  | num x => exact absurd hn id
  | str s => exact ⟨'"', _, by simp [Node.compact, quote]; rfl, by decide⟩
  | arr items stop => exact ⟨'[', _, by simp [Node.compact]; rfl, by decide⟩
  | obj fields stop => exact ⟨'{', _, by simp [Node.compact]; rfl, by decide⟩
  | bad f => exact absurd hn id

theorem skipBlank_of_opens (c : Cursor) (ch : Char) (more : List Char) (h : c.rest = ch :: more)
    (hOpen : Opens ch) : c.skipBlank = c :=
  skipBlank_of_cons c ch more h hOpen.1 hOpen.2.1 hOpen.2.2.1 hOpen.2.2.2.1

theorem readValue_openBracket (fuel : Nat) (c : Cursor) (more : List Char)
    (h : c.rest = '[' :: more) :
    readValue (fuel + 1) c =
      if c.depth ≥ maxDepth then (.arr [] (some ⟨none, c.peekFault .recursionLimitExceeded⟩), none)
      else readItems fuel { c.advance with depth := c.depth + 1 } true [] := by
  rw [readValue, skipBlank_of_cons c _ _ h (by decide) (by decide) (by decide) (by decide)]
  simp +decide only [peek, h, List.head?_cons, ↓reduceIte]

theorem readValue_openBrace (fuel : Nat) (c : Cursor) (more : List Char)
    (h : c.rest = '{' :: more) :
    readValue (fuel + 1) c =
      if c.depth ≥ maxDepth then (.obj [] (some ⟨none, c.peekFault .recursionLimitExceeded⟩), none)
      else readFields fuel { c.advance with depth := c.depth + 1 } true [] := by
  rw [readValue, skipBlank_of_cons c _ _ h (by decide) (by decide) (by decide) (by decide)]
  simp +decide only [peek, h, List.head?_cons, ↓reduceIte]

/-- How `readItems` goes on once an item is read: behind it, or stopped with it. -/
def itemsAfter (fuel : Nat) (acc : List Node) : Node × Option Cursor → Node × Option Cursor
  | (item, some c) => readItems fuel c false (item :: acc)
  | (item, none) => (.arr (item :: acc).reverse none, none)

def fieldsAfter (fuel : Nat) (acc : List (String × Node)) (key : String) :
    Node × Option Cursor → Node × Option Cursor
  | (v, some c) => readFields fuel c false ((key, v) :: acc)
  | (v, none) => (.obj ((key, v) :: acc).reverse none, none)

@[simp] theorem itemsAfter_read (fuel : Nat) (acc : List Node) (item : Node) (c : Cursor) :
    itemsAfter fuel acc (item, some c) = readItems fuel c false (item :: acc) := rfl

@[simp] theorem fieldsAfter_read (fuel : Nat) (acc : List (String × Node)) (key : String)
    (v : Node) (c : Cursor) :
    fieldsAfter fuel acc key (v, some c) = readFields fuel c false ((key, v) :: acc) := rfl

theorem itemsAfter_stopped (fuel : Nat) (acc : List Node) (r : Node × Option Cursor)
    (h : r.2 = none) : (itemsAfter fuel acc r).2 = none := by
  obtain ⟨item, stop⟩ := r
  subst h
  rfl

theorem fieldsAfter_stopped (fuel : Nat) (acc : List (String × Node)) (key : String)
    (r : Node × Option Cursor) (h : r.2 = none) : (fieldsAfter fuel acc key r).2 = none := by
  obtain ⟨v, stop⟩ := r
  subst h
  rfl

theorem readItems_close (fuel : Nat) (c : Cursor) (first : Bool) (acc : List Node)
    (rest : List Char) (h : c.rest = ']' :: rest) :
    readItems (fuel + 1) c first acc =
      (.arr acc.reverse none, some { c.advance with depth := c.depth - 1 }) := by
  rw [readItems, skipBlank_of_cons c _ _ h (by decide) (by decide) (by decide) (by decide)]
  simp [peek, h]

theorem readItems_first (fuel : Nat) (c : Cursor) (acc : List Node) (ch : Char)
    (more : List Char) (h : c.rest = ch :: more) (hOpen : Opens ch) :
    readItems (fuel + 1) c true acc = itemsAfter fuel acc (readValue fuel c) := by
  have hClose : ch ≠ ']' := hOpen.2.2.2.2.1
  rw [readItems, skipBlank_of_opens c _ _ h hOpen]
  simp only [peek, h, List.head?_cons, Bool.not_true, Bool.and_false, Bool.false_eq_true,
    ite_false, ite_true]
  rfl

set_option linter.unusedSimpArgs false in
theorem readItems_next (fuel : Nat) (c : Cursor) (acc : List Node) (ch : Char)
    (more : List Char) (h : c.rest = ',' :: ch :: more) (hOpen : Opens ch) :
    readItems (fuel + 1) c false acc = itemsAfter fuel acc (readValue fuel c.advance) := by
  have hClose : ch ≠ ']' := hOpen.2.2.2.2.1
  have hAfter := advance_rest c _ _ h
  rw [readItems, skipBlank_of_cons c _ _ h (by decide) (by decide) (by decide) (by decide)]
  -- `hClose` rules out the trailing comma when the match on the next character is reduced
  simp +decide only [peek, h, List.head?_cons, ite_true,
    skipBlank_of_opens c.advance _ _ hAfter hOpen, hAfter, hClose]
  rfl

theorem readFields_close (fuel : Nat) (c : Cursor) (first : Bool) (acc : List (String × Node))
    (rest : List Char) (h : c.rest = '}' :: rest) :
    readFields (fuel + 1) c first acc =
      (.obj acc.reverse none, some { c.advance with depth := c.depth - 1 }) := by
  rw [readFields, skipBlank_of_cons c _ _ h (by decide) (by decide) (by decide) (by decide)]
  simp [peek, h]

theorem readFields_first (fuel : Nat) (c : Cursor) (acc : List (String × Node)) (k : String)
    (rest : List Char) (h : c.rest = '"' :: (k.toList.flatMap escapeChar ++ '"' :: ':' :: rest)) :
    ∃ c', c'.rest = rest ∧ c'.depth = c.depth ∧
      readFields (fuel + 1) c true acc = fieldsAfter fuel acc k (readValue fuel c') := by
  obtain ⟨c₂, hRest₂, hDepth₂, hKey⟩ := readString_quote k c.advance _ (advance_rest _ _ _ h)
  have hSkip₂ : c₂.skipBlank = c₂ :=
    skipBlank_of_cons _ _ _ hRest₂ (by decide) (by decide) (by decide) (by decide)
  refine ⟨c₂.advance, advance_rest _ _ _ hRest₂, by simp [hDepth₂], ?_⟩
  rw [readFields, skipBlank_of_cons c _ _ h (by decide) (by decide) (by decide) (by decide)]
  simp only [peek, h, List.head?_cons]
  split
  · rename_i hNone; cases hNone
  · rename_i hClose; cases hClose
  · rename_i hQuote
    cases hQuote
    simp only [Bool.not_true, Bool.and_false, Bool.false_eq_true, ite_false, ite_true, h,
      List.head?_cons]
    rw [hKey]
    simp only [hSkip₂, hRest₂, List.head?_cons]
    rcases readValue fuel c₂.advance with ⟨v, _ | c'⟩ <;> rfl

theorem readFields_next (fuel : Nat) (c : Cursor) (acc : List (String × Node)) (k : String)
    (rest : List Char)
    (h : c.rest = ',' :: '"' :: (k.toList.flatMap escapeChar ++ '"' :: ':' :: rest)) :
    ∃ c', c'.rest = rest ∧ c'.depth = c.depth ∧
      readFields (fuel + 1) c false acc = fieldsAfter fuel acc k (readValue fuel c') := by
  have hQuoted := advance_rest c _ _ h
  obtain ⟨c₂, hRest₂, hDepth₂, hKey⟩ := readString_quote k c.advance.advance _
    (advance_rest _ _ _ hQuoted)
  have hSkip₂ : c₂.skipBlank = c₂ :=
    skipBlank_of_cons _ _ _ hRest₂ (by decide) (by decide) (by decide) (by decide)
  refine ⟨c₂.advance, advance_rest _ _ _ hRest₂, by simp [hDepth₂], ?_⟩
  rw [readFields, skipBlank_of_cons c _ _ h (by decide) (by decide) (by decide) (by decide)]
  simp only [peek, h, List.head?_cons]
  split
  · rename_i hNone; cases hNone
  · rename_i hClose; cases hClose
  · rename_i hComma
    cases hComma
    simp only [decide_true, Bool.not_false, Bool.and_self, ite_true,
      skipBlank_of_cons _ _ _ hQuoted (by decide) (by decide) (by decide) (by decide), hQuoted,
      List.head?_cons]
    rw [hKey]
    simp only [hSkip₂, hRest₂, List.head?_cons]
    rcases readValue fuel c₂.advance with ⟨v, _ | c'⟩ <;> rfl

/-! ## Texts that read back -/

/-- The printed text of `n`, followed by anything, reads as `n` with sorted fields, given
fuel for its length and room for its depth. -/
def ReadsBack (n : Node) : Prop :=
  ∀ (fuel : Nat) (c : Cursor) (rest : List Char), c.rest = n.compact.toList ++ rest →
    n.compact.toList.length ≤ fuel → c.depth + n.depth ≤ maxDepth →
      ∃ c', readValue fuel c = (n.sorted, some c') ∧ c'.rest = rest ∧ c'.depth = c.depth

section Items

variable (items : List Node) (hBack : ∀ x ∈ items, ReadsBack x)
  (hPrintable : ∀ x ∈ items, x.Printable)
include hBack hPrintable

theorem readItems_tail (fuel : Nat) (c : Cursor) (acc : List Node) (rest : List Char)
    (h : c.rest = items.flatMap (fun x => ',' :: x.compact.toList) ++ ']' :: rest)
    (hFuel : (items.flatMap (fun x => ',' :: x.compact.toList)).length < fuel)
    (hDepth : ∀ x ∈ items, c.depth + x.depth ≤ maxDepth) :
    ∃ c', readItems fuel c false acc = (.arr (acc.reverse ++ items.map Node.sorted) none, some c') ∧
      c'.rest = rest ∧ c'.depth = c.depth - 1 := by
  induction items generalizing fuel c acc with
  | nil =>
    obtain ⟨fuel, rfl⟩ : ∃ f, fuel = f + 1 := ⟨fuel - 1, by omega⟩
    simp only [List.flatMap_nil, List.nil_append] at h
    refine ⟨{ c.advance with depth := c.depth - 1 }, ?_, advance_rest c _ _ h, rfl⟩
    rw [readItems_close fuel c false acc rest h]
    simp
  | cons x xs ih =>
    obtain ⟨fuel, rfl⟩ : ∃ f, fuel = f + 1 := ⟨fuel - 1, by omega⟩
    obtain ⟨ch, more, hText, hOpen⟩ := compact_cons x (hPrintable x (by simp))
    simp only [List.flatMap_cons, List.cons_append, List.append_assoc] at h hFuel
    obtain ⟨c₁, hRead, hRest₁, hDepth₁⟩ := hBack x (by simp) fuel c.advance _
      (advance_rest c _ _ h) (by simp at hFuel; omega) (by simpa using hDepth x (by simp))
    obtain ⟨c', hTail, hRest', hDepth'⟩ := ih (fun y hy => hBack y (by simp [hy]))
      (fun y hy => hPrintable y (by simp [hy])) fuel c₁ (x.sorted :: acc) hRest₁
      (by simp at hFuel ⊢; omega)
      (fun y hy => by rw [hDepth₁, advance_depth]; exact hDepth y (by simp [hy]))
    refine ⟨c', ?_, hRest', by rw [hDepth', hDepth₁, advance_depth]⟩
    rw [readItems_next fuel c acc ch _ (by rw [h, hText]; rfl) hOpen, hRead]
    simpa using hTail

theorem readItems_all (fuel : Nat) (c : Cursor) (rest : List Char)
    (h : c.rest = [','].intercalate (items.map (String.toList ∘ Node.compact)) ++ ']' :: rest)
    (hFuel : ([','].intercalate (items.map (String.toList ∘ Node.compact))).length < fuel)
    (hDepth : ∀ x ∈ items, c.depth + x.depth ≤ maxDepth) :
    ∃ c', readItems fuel c true [] = (.arr (items.map Node.sorted) none, some c') ∧
      c'.rest = rest ∧ c'.depth = c.depth - 1 := by
  obtain ⟨fuel, rfl⟩ : ∃ f, fuel = f + 1 := ⟨fuel - 1, by omega⟩
  cases items with
  | nil =>
    simp only [List.map_nil, List.intercalate_nil, List.nil_append] at h
    exact ⟨_, readItems_close fuel c true [] rest h, advance_rest c _ _ h, rfl⟩
  | cons x xs =>
    obtain ⟨ch, more, hText, hOpen⟩ := compact_cons x (hPrintable x (by simp))
    rw [List.map_cons, intercalate_comma, List.flatMap_map] at h hFuel
    simp only [Function.comp_apply, List.append_assoc] at h hFuel
    obtain ⟨c₁, hRead, hRest₁, hDepth₁⟩ := hBack x (by simp) fuel c _ h
      (by simp at hFuel; omega) (hDepth x (by simp))
    have hLen : 0 < x.compact.toList.length := by simp [hText]
    obtain ⟨c', hTail, hRest', hDepth'⟩ := readItems_tail xs (fun y hy => hBack y (by simp [hy]))
      (fun y hy => hPrintable y (by simp [hy])) fuel c₁ [x.sorted] rest hRest₁
      (by simp at hFuel ⊢; omega)
      (fun y hy => by rw [hDepth₁]; exact hDepth y (by simp [hy]))
    refine ⟨c', ?_, hRest', by rw [hDepth', hDepth₁]⟩
    rw [readItems_first fuel c [] ch _ (by rw [h, hText]; rfl) hOpen, hRead]
    simpa using hTail

end Items

section Fields

variable (fs : List (String × Node)) (hBack : ∀ p ∈ fs, ReadsBack p.2)
include hBack

theorem readFields_tail (fuel : Nat) (c : Cursor) (acc : List (String × Node)) (rest : List Char)
    (h : c.rest = fs.flatMap commaField ++ '}' :: rest)
    (hFuel : (fs.flatMap commaField).length < fuel)
    (hDepth : ∀ p ∈ fs, c.depth + p.2.depth ≤ maxDepth) :
    ∃ c', readFields fuel c false acc =
        (.obj (acc.reverse ++ fs.map (fun p => (p.1, p.2.sorted))) none, some c') ∧
      c'.rest = rest ∧ c'.depth = c.depth - 1 := by
  induction fs generalizing fuel c acc with
  | nil =>
    obtain ⟨fuel, rfl⟩ : ∃ f, fuel = f + 1 := ⟨fuel - 1, by omega⟩
    simp only [List.flatMap_nil, List.nil_append] at h
    refine ⟨{ c.advance with depth := c.depth - 1 }, ?_, advance_rest c _ _ h, rfl⟩
    rw [readFields_close fuel c false acc rest h]
    simp
  | cons p ps ih =>
    obtain ⟨fuel, rfl⟩ : ∃ f, fuel = f + 1 := ⟨fuel - 1, by omega⟩
    obtain ⟨k, v⟩ := p
    rw [List.flatMap_cons, commaField, fieldText_eq] at h hFuel
    simp only [List.cons_append, List.append_assoc] at h hFuel
    obtain ⟨c₂, hRest₂, hDepth₂, hStep⟩ := readFields_next fuel c acc k _ h
    obtain ⟨c₃, hRead, hRest₃, hDepth₃⟩ := hBack (k, v) (by simp) fuel c₂ _ hRest₂
      (by dsimp only; simp at hFuel; omega) (by rw [hDepth₂]; exact hDepth (k, v) (by simp))
    obtain ⟨c', hTail, hRest', hDepth'⟩ := ih (fun q hq => hBack q (by simp [hq])) fuel c₃
      ((k, v.sorted) :: acc) hRest₃ (by simp at hFuel ⊢; omega)
      (fun q hq => by rw [hDepth₃, hDepth₂]; exact hDepth q (by simp [hq]))
    refine ⟨c', ?_, hRest', by rw [hDepth', hDepth₃, hDepth₂]⟩
    rw [hStep, hRead]
    simpa using hTail

theorem readFields_all (fuel : Nat) (c : Cursor) (rest : List Char)
    (h : c.rest = [','].intercalate (fs.map fieldText) ++ '}' :: rest)
    (hFuel : ([','].intercalate (fs.map fieldText)).length < fuel)
    (hDepth : ∀ p ∈ fs, c.depth + p.2.depth ≤ maxDepth) :
    ∃ c', readFields fuel c true [] = (.obj (fs.map (fun p => (p.1, p.2.sorted))) none, some c') ∧
      c'.rest = rest ∧ c'.depth = c.depth - 1 := by
  obtain ⟨fuel, rfl⟩ : ∃ f, fuel = f + 1 := ⟨fuel - 1, by omega⟩
  cases fs with
  | nil =>
    simp only [List.map_nil, List.intercalate_nil, List.nil_append] at h
    exact ⟨_, readFields_close fuel c true [] rest h, advance_rest c _ _ h, rfl⟩
  | cons p ps =>
    obtain ⟨k, v⟩ := p
    rw [List.map_cons, intercalate_comma, List.flatMap_map] at h hFuel
    have hCommas : ps.flatMap (fun p => ',' :: fieldText p) = ps.flatMap commaField := rfl
    rw [hCommas, fieldText_eq] at h hFuel
    simp only [List.cons_append, List.append_assoc] at h hFuel
    obtain ⟨c₂, hRest₂, hDepth₂, hStep⟩ := readFields_first fuel c [] k _ h
    obtain ⟨c₃, hRead, hRest₃, hDepth₃⟩ := hBack (k, v) (by simp) fuel c₂ _ hRest₂
      (by dsimp only; simp at hFuel; omega) (by rw [hDepth₂]; exact hDepth (k, v) (by simp))
    obtain ⟨c', hTail, hRest', hDepth'⟩ := readFields_tail ps (fun q hq => hBack q (by simp [hq]))
      fuel c₃ [(k, v.sorted)] rest hRest₃ (by simp at hFuel ⊢; omega)
      (fun q hq => by rw [hDepth₃, hDepth₂]; exact hDepth q (by simp [hq]))
    refine ⟨c', ?_, hRest', by rw [hDepth', hDepth₃, hDepth₂]⟩
    rw [hStep, hRead]
    simpa using hTail

end Fields

/-! ## Documents that read back -/

theorem readsBack_null : ReadsBack .null := by
  intro fuel c rest h hFuel _
  obtain ⟨fuel, rfl⟩ : ∃ f, fuel = f + 1 := ⟨fuel - 1, by simp [Node.compact] at hFuel; omega⟩
  have hText : c.rest = 'n' :: (['u', 'l', 'l'] ++ rest) := by simpa [Node.compact] using h
  obtain ⟨c', hIdent, hRest, hDepth⟩ := readIdent_append c.advance _ _ (advance_rest c _ _ hText)
  refine ⟨c', ?_, hRest, by simpa using hDepth⟩
  rw [readValue, skipBlank_of_cons c _ _ hText (by decide) (by decide) (by decide) (by decide)]
  simp +decide only [peek, hText, List.head?_cons, ↓reduceIte, hIdent, Node.sorted]

theorem readsBack_bool (b : Bool) : ReadsBack (.bool b) := by
  intro fuel c rest h hFuel _
  obtain ⟨fuel, rfl⟩ : ∃ f, fuel = f + 1 :=
    ⟨fuel - 1, by cases b <;> simp [Node.compact] at hFuel <;> omega⟩
  cases b with
  | true =>
    have hText : c.rest = 't' :: (['r', 'u', 'e'] ++ rest) := by simpa [Node.compact] using h
    obtain ⟨c', hIdent, hRest, hDepth⟩ := readIdent_append c.advance _ _ (advance_rest c _ _ hText)
    refine ⟨c', ?_, hRest, by simpa using hDepth⟩
    rw [readValue, skipBlank_of_cons c _ _ hText (by decide) (by decide) (by decide) (by decide)]
    simp +decide only [peek, hText, List.head?_cons, ↓reduceIte, hIdent, Node.sorted]
  | false =>
    have hText : c.rest = 'f' :: (['a', 'l', 's', 'e'] ++ rest) := by simpa [Node.compact] using h
    obtain ⟨c', hIdent, hRest, hDepth⟩ := readIdent_append c.advance _ _ (advance_rest c _ _ hText)
    refine ⟨c', ?_, hRest, by simpa using hDepth⟩
    rw [readValue, skipBlank_of_cons c _ _ hText (by decide) (by decide) (by decide) (by decide)]
    simp +decide only [peek, hText, List.head?_cons, ↓reduceIte, hIdent, Node.sorted]

theorem readsBack_str (s : String) : ReadsBack (.str s) := by
  intro fuel c rest h hFuel _
  obtain ⟨fuel, rfl⟩ : ∃ f, fuel = f + 1 :=
    ⟨fuel - 1, by simp [Node.compact, quote] at hFuel; omega⟩
  have hText : c.rest = '"' :: (s.toList.flatMap escapeChar ++ '"' :: rest) := by
    simpa [Node.compact, quote] using h
  obtain ⟨c', hRest, hDepth, hRead⟩ := readString_quote s c.advance rest (advance_rest c _ _ hText)
  refine ⟨c', ?_, hRest, by simpa using hDepth⟩
  rw [readValue, skipBlank_of_cons c _ _ hText (by decide) (by decide) (by decide) (by decide)]
  simp +decide only [peek, hText, List.head?_cons, ↓reduceIte, hRead, Node.sorted]

theorem readsBack_arr (items : List Node) (hBack : ∀ x ∈ items, ReadsBack x)
    (hPrintable : ∀ x ∈ items, x.Printable) : ReadsBack (.arr items none) := by
  intro fuel c rest h hFuel hDepth
  obtain ⟨fuel, rfl⟩ : ∃ f, fuel = f + 1 := ⟨fuel - 1, by simp [Node.compact] at hFuel; omega⟩
  rw [compact_arr] at h hFuel
  have hOpen : c.rest = '[' :: ([','].intercalate (items.map (String.toList ∘ Node.compact)) ++
      ']' :: rest) := by simpa using h
  have hRoom : ¬ c.depth ≥ maxDepth := by simp [Node.depth] at hDepth; omega
  rw [readValue_openBracket fuel c _ hOpen, if_neg hRoom]
  obtain ⟨c', hRead, hRest, hDepth'⟩ := readItems_all items hBack hPrintable fuel
    { c.advance with depth := c.depth + 1 } rest (advance_rest c _ _ hOpen)
    (by simp at hFuel; omega)
    (fun x hx => by
      have := depth_le_itemsDepth items x hx
      simp [Node.depth] at hDepth ⊢
      omega)
  refine ⟨c', ?_, hRest, by simpa using hDepth'⟩
  simpa [Node.sorted, sortedItems_eq_map] using hRead

theorem readsBack_obj (fields : List (String × Node)) (hBack : ∀ p ∈ fields, ReadsBack p.2) :
    ReadsBack (.obj fields none) := by
  intro fuel c rest h hFuel hDepth
  obtain ⟨fuel, rfl⟩ : ∃ f, fuel = f + 1 := ⟨fuel - 1, by simp [Node.compact] at hFuel; omega⟩
  have hPerm : List.Perm (byKey fields) fields := List.mergeSort_perm _ _
  rw [compact_obj] at h hFuel
  have hOpen : c.rest = '{' :: ([','].intercalate ((byKey fields).map fieldText) ++
      '}' :: rest) := by simpa using h
  have hRoom : ¬ c.depth ≥ maxDepth := by simp [Node.depth] at hDepth; omega
  rw [readValue_openBrace fuel c _ hOpen, if_neg hRoom]
  obtain ⟨c', hRead, hRest, hDepth'⟩ := readFields_all (byKey fields)
    (fun p hp => hBack p (hPerm.mem_iff.mp hp)) fuel { c.advance with depth := c.depth + 1 } rest
    (advance_rest c _ _ hOpen) (by simp at hFuel ⊢; omega)
    (fun p hp => by
      have := depth_le_fieldsDepth fields p (hPerm.mem_iff.mp hp)
      simp [Node.depth] at hDepth ⊢
      omega)
  refine ⟨c', ?_, hRest, by simpa using hDepth'⟩
  rw [sorted_obj]
  exact hRead

mutual

theorem readsBack_of_printable : ∀ n : Node, n.Printable → ReadsBack n
  | .null, _ => readsBack_null
  | .bool b, _ => readsBack_bool b
  | .str s, _ => readsBack_str s
  | .num _, h => h.elim
  | .bad _, h => h.elim
  | .arr items stop, ⟨hStop, hItems⟩ => by
    subst hStop
    exact readsBack_arr items (readsBack_items items hItems) ((itemsPrintable_iff items).mp hItems)
  | .obj fields stop, ⟨hStop, hFields⟩ => by
    subst hStop
    exact readsBack_obj fields (readsBack_fields fields hFields)

theorem readsBack_items : ∀ items : List Node, itemsPrintable items → ∀ x ∈ items, ReadsBack x
  | [], _ => fun _ hx => absurd hx List.not_mem_nil
  | n :: ns, ⟨hn, hns⟩ => fun x hx => by
    cases hx with
    | head => exact readsBack_of_printable n hn
    | tail _ hx => exact readsBack_items ns hns x hx

theorem readsBack_fields :
    ∀ fields : List (String × Node), fieldsPrintable fields → ∀ p ∈ fields, ReadsBack p.2
  | [], _ => fun _ hp => absurd hp List.not_mem_nil
  | (_, v) :: ps, ⟨hv, hps⟩ => fun p hp => by
    cases hp with
    | head => exact readsBack_of_printable v hv
    | tail _ hp => exact readsBack_fields ps hps p hp

end

/-! ## Texts nested too deep -/

/-- The printed text of `n`, read from a depth at most `maxDepth` at which `n` does not fit,
stops at the recursion limit. -/
def StopsDeep (n : Node) : Prop :=
  ∀ (fuel : Nat) (c : Cursor) (rest : List Char), c.rest = n.compact.toList ++ rest →
    n.compact.toList.length ≤ fuel → c.depth ≤ maxDepth → maxDepth < c.depth + n.depth →
      (readValue fuel c).2 = none

section Items

variable (items : List Node) (hBack : ∀ x ∈ items, ReadsBack x)
  (hStops : ∀ x ∈ items, StopsDeep x) (hPrintable : ∀ x ∈ items, x.Printable)
include hBack hStops hPrintable

theorem readItems_tail_stops (fuel : Nat) (c : Cursor) (acc : List Node) (rest : List Char)
    (h : c.rest = items.flatMap (fun x => ',' :: x.compact.toList) ++ ']' :: rest)
    (hFuel : (items.flatMap (fun x => ',' :: x.compact.toList)).length < fuel)
    (hRoom : c.depth ≤ maxDepth) (hDeep : ∃ x ∈ items, maxDepth < c.depth + x.depth) :
    (readItems fuel c false acc).2 = none := by
  induction items generalizing fuel c acc with
  | nil => simp at hDeep
  | cons x xs ih =>
    obtain ⟨fuel, rfl⟩ : ∃ f, fuel = f + 1 := ⟨fuel - 1, by omega⟩
    obtain ⟨ch, more, hText, hOpen⟩ := compact_cons x (hPrintable x (by simp))
    simp only [List.flatMap_cons, List.cons_append, List.append_assoc] at h hFuel
    rw [readItems_next fuel c acc ch _ (by rw [h, hText]; rfl) hOpen]
    by_cases hFits : c.depth + x.depth ≤ maxDepth
    · -- the item fits, so the deep one comes later
      obtain ⟨c₁, hRead, hRest₁, hDepth₁⟩ := hBack x (by simp) fuel c.advance _
        (advance_rest c _ _ h) (by simp at hFuel; omega) (by simpa using hFits)
      obtain ⟨y, hy, hYDeep⟩ := hDeep
      have hLater : y ∈ xs := by
        rcases List.mem_cons.mp hy with rfl | hy
        · omega
        · exact hy
      rw [hRead, itemsAfter_read]
      exact ih (fun y hy => hBack y (by simp [hy])) (fun y hy => hStops y (by simp [hy]))
        (fun y hy => hPrintable y (by simp [hy])) fuel c₁ (x.sorted :: acc) hRest₁
        (by simp at hFuel ⊢; omega) (by simpa [hDepth₁] using hRoom)
        ⟨y, hLater, by simpa [hDepth₁] using hYDeep⟩
    · exact itemsAfter_stopped _ _ _ (hStops x (by simp) fuel c.advance _ (advance_rest c _ _ h)
        (by simp at hFuel; omega) (by simpa using hRoom) (by simp; omega))

theorem readItems_all_stops (fuel : Nat) (c : Cursor) (rest : List Char)
    (h : c.rest = [','].intercalate (items.map (String.toList ∘ Node.compact)) ++ ']' :: rest)
    (hFuel : ([','].intercalate (items.map (String.toList ∘ Node.compact))).length < fuel)
    (hRoom : c.depth ≤ maxDepth) (hDeep : ∃ x ∈ items, maxDepth < c.depth + x.depth) :
    (readItems fuel c true []).2 = none := by
  obtain ⟨fuel, rfl⟩ : ∃ f, fuel = f + 1 := ⟨fuel - 1, by omega⟩
  cases items with
  | nil => simp at hDeep
  | cons x xs =>
    obtain ⟨ch, more, hText, hOpen⟩ := compact_cons x (hPrintable x (by simp))
    rw [List.map_cons, intercalate_comma, List.flatMap_map] at h hFuel
    simp only [Function.comp_apply, List.append_assoc] at h hFuel
    rw [readItems_first fuel c [] ch _ (by rw [h, hText]; rfl) hOpen]
    by_cases hFits : c.depth + x.depth ≤ maxDepth
    · obtain ⟨c₁, hRead, hRest₁, hDepth₁⟩ := hBack x (by simp) fuel c _ h
        (by simp at hFuel; omega) hFits
      obtain ⟨y, hy, hYDeep⟩ := hDeep
      have hLater : y ∈ xs := by
        rcases List.mem_cons.mp hy with rfl | hy
        · omega
        · exact hy
      have hLen : 0 < x.compact.toList.length := by simp [hText]
      rw [hRead, itemsAfter_read]
      exact readItems_tail_stops xs (fun y hy => hBack y (by simp [hy]))
        (fun y hy => hStops y (by simp [hy])) (fun y hy => hPrintable y (by simp [hy])) fuel c₁
        [x.sorted] rest hRest₁ (by simp at hFuel ⊢; omega) (by simpa [hDepth₁] using hRoom)
        ⟨y, hLater, by simpa [hDepth₁] using hYDeep⟩
    · exact itemsAfter_stopped _ _ _ (hStops x (by simp) fuel c _ h (by simp at hFuel; omega)
        hRoom (by omega))

end Items

section Fields

variable (fs : List (String × Node)) (hBack : ∀ p ∈ fs, ReadsBack p.2)
  (hStops : ∀ p ∈ fs, StopsDeep p.2)
include hBack hStops

theorem readFields_tail_stops (fuel : Nat) (c : Cursor) (acc : List (String × Node))
    (rest : List Char) (h : c.rest = fs.flatMap commaField ++ '}' :: rest)
    (hFuel : (fs.flatMap commaField).length < fuel) (hRoom : c.depth ≤ maxDepth)
    (hDeep : ∃ p ∈ fs, maxDepth < c.depth + p.2.depth) :
    (readFields fuel c false acc).2 = none := by
  induction fs generalizing fuel c acc with
  | nil => simp at hDeep
  | cons p ps ih =>
    obtain ⟨fuel, rfl⟩ : ∃ f, fuel = f + 1 := ⟨fuel - 1, by omega⟩
    obtain ⟨k, v⟩ := p
    rw [List.flatMap_cons, commaField, fieldText_eq] at h hFuel
    simp only [List.cons_append, List.append_assoc] at h hFuel
    obtain ⟨c₂, hRest₂, hDepth₂, hStep⟩ := readFields_next fuel c acc k _ h
    rw [hStep]
    by_cases hFits : c.depth + v.depth ≤ maxDepth
    · obtain ⟨c₃, hRead, hRest₃, hDepth₃⟩ := hBack (k, v) (by simp) fuel c₂ _ hRest₂
        (by dsimp only; simp at hFuel; omega) (by rw [hDepth₂]; exact hFits)
      obtain ⟨q, hq, hQDeep⟩ := hDeep
      have hLater : q ∈ ps := by
        rcases List.mem_cons.mp hq with rfl | hq
        · simp at hQDeep; omega
        · exact hq
      rw [hRead, fieldsAfter_read]
      exact ih (fun q hq => hBack q (by simp [hq])) (fun q hq => hStops q (by simp [hq])) fuel c₃
        ((k, v.sorted) :: acc) hRest₃ (by simp at hFuel ⊢; omega)
        (by rw [hDepth₃, hDepth₂]; exact hRoom) ⟨q, hLater, by rw [hDepth₃, hDepth₂]; exact hQDeep⟩
    · exact fieldsAfter_stopped _ _ _ _ (hStops (k, v) (by simp) fuel c₂ _ hRest₂
        (by dsimp only; simp at hFuel; omega) (by omega) (by dsimp only; omega))

theorem readFields_all_stops (fuel : Nat) (c : Cursor) (rest : List Char)
    (h : c.rest = [','].intercalate (fs.map fieldText) ++ '}' :: rest)
    (hFuel : ([','].intercalate (fs.map fieldText)).length < fuel) (hRoom : c.depth ≤ maxDepth)
    (hDeep : ∃ p ∈ fs, maxDepth < c.depth + p.2.depth) :
    (readFields fuel c true []).2 = none := by
  obtain ⟨fuel, rfl⟩ : ∃ f, fuel = f + 1 := ⟨fuel - 1, by omega⟩
  cases fs with
  | nil => simp at hDeep
  | cons p ps =>
    obtain ⟨k, v⟩ := p
    rw [List.map_cons, intercalate_comma, List.flatMap_map] at h hFuel
    have hCommas : ps.flatMap (fun p => ',' :: fieldText p) = ps.flatMap commaField := rfl
    rw [hCommas, fieldText_eq] at h hFuel
    simp only [List.cons_append, List.append_assoc] at h hFuel
    obtain ⟨c₂, hRest₂, hDepth₂, hStep⟩ := readFields_first fuel c [] k _ h
    rw [hStep]
    by_cases hFits : c.depth + v.depth ≤ maxDepth
    · obtain ⟨c₃, hRead, hRest₃, hDepth₃⟩ := hBack (k, v) (by simp) fuel c₂ _ hRest₂
        (by dsimp only; simp at hFuel; omega) (by rw [hDepth₂]; exact hFits)
      obtain ⟨q, hq, hQDeep⟩ := hDeep
      have hLater : q ∈ ps := by
        rcases List.mem_cons.mp hq with rfl | hq
        · simp at hQDeep; omega
        · exact hq
      rw [hRead, fieldsAfter_read]
      exact readFields_tail_stops ps (fun q hq => hBack q (by simp [hq]))
        (fun q hq => hStops q (by simp [hq])) fuel c₃ [(k, v.sorted)] rest hRest₃
        (by simp at hFuel ⊢; omega) (by rw [hDepth₃, hDepth₂]; exact hRoom)
        ⟨q, hLater, by rw [hDepth₃, hDepth₂]; exact hQDeep⟩
    · exact fieldsAfter_stopped _ _ _ _ (hStops (k, v) (by simp) fuel c₂ _ hRest₂
        (by dsimp only; simp at hFuel; omega) (by omega) (by dsimp only; omega))

end Fields

theorem stopsDeep_arr (items : List Node) (hBack : ∀ x ∈ items, ReadsBack x)
    (hStops : ∀ x ∈ items, StopsDeep x) (hPrintable : ∀ x ∈ items, x.Printable) :
    StopsDeep (.arr items none) := by
  intro fuel c rest h hFuel hRoom hDeep
  obtain ⟨fuel, rfl⟩ : ∃ f, fuel = f + 1 := ⟨fuel - 1, by simp [Node.compact] at hFuel; omega⟩
  rw [compact_arr] at h hFuel
  have hOpen : c.rest = '[' :: ([','].intercalate (items.map (String.toList ∘ Node.compact)) ++
      ']' :: rest) := by simpa using h
  rw [readValue_openBracket fuel c _ hOpen]
  split
  · rfl
  · rename_i hFree
    have hNonempty : items ≠ [] := by
      rintro rfl
      simp [Node.depth, Node.itemsDepth] at hDeep
      omega
    obtain ⟨x, hx, hxDepth⟩ := exists_itemsDepth items hNonempty
    exact readItems_all_stops items hBack hStops hPrintable fuel _ rest (advance_rest c _ _ hOpen)
      (by simp at hFuel; omega) (by simp; omega)
      ⟨x, hx, by simp [Node.depth] at hDeep; simp; omega⟩

theorem stopsDeep_obj (fields : List (String × Node)) (hBack : ∀ p ∈ fields, ReadsBack p.2)
    (hStops : ∀ p ∈ fields, StopsDeep p.2) : StopsDeep (.obj fields none) := by
  intro fuel c rest h hFuel hRoom hDeep
  obtain ⟨fuel, rfl⟩ : ∃ f, fuel = f + 1 := ⟨fuel - 1, by simp [Node.compact] at hFuel; omega⟩
  have hPerm : List.Perm (byKey fields) fields := List.mergeSort_perm _ _
  rw [compact_obj] at h hFuel
  have hOpen : c.rest = '{' :: ([','].intercalate ((byKey fields).map fieldText) ++
      '}' :: rest) := by simpa using h
  rw [readValue_openBrace fuel c _ hOpen]
  split
  · rfl
  · rename_i hFree
    have hNonempty : fields ≠ [] := by
      rintro rfl
      simp [Node.depth, Node.fieldsDepth] at hDeep
      omega
    obtain ⟨p, hp, hpDepth⟩ := exists_fieldsDepth fields hNonempty
    exact readFields_all_stops (byKey fields) (fun q hq => hBack q (hPerm.mem_iff.mp hq))
      (fun q hq => hStops q (hPerm.mem_iff.mp hq)) fuel _ rest (advance_rest c _ _ hOpen)
      (by simp at hFuel ⊢; omega) (by simp; omega)
      ⟨p, hPerm.mem_iff.mpr hp, by simp [Node.depth] at hDeep; simp; omega⟩

mutual

theorem stopsDeep_of_printable : ∀ n : Node, n.Printable → StopsDeep n
  | .null, _ | .bool _, _ | .str _, _ => fun _ _ _ _ _ hRoom hDeep => by
    simp [Node.depth] at hDeep
    omega
  | .num _, h => h.elim
  | .bad _, h => h.elim
  | .arr items stop, ⟨hStop, hItems⟩ => by
    subst hStop
    exact stopsDeep_arr items (readsBack_items items hItems) (stopsDeep_items items hItems)
      ((itemsPrintable_iff items).mp hItems)
  | .obj fields stop, ⟨hStop, hFields⟩ => by
    subst hStop
    exact stopsDeep_obj fields (readsBack_fields fields hFields) (stopsDeep_fields fields hFields)

theorem stopsDeep_items : ∀ items : List Node, itemsPrintable items → ∀ x ∈ items, StopsDeep x
  | [], _ => fun _ hx => absurd hx List.not_mem_nil
  | n :: ns, ⟨hn, hns⟩ => fun x hx => by
    cases hx with
    | head => exact stopsDeep_of_printable n hn
    | tail _ hx => exact stopsDeep_items ns hns x hx

theorem stopsDeep_fields :
    ∀ fields : List (String × Node), fieldsPrintable fields → ∀ p ∈ fields, StopsDeep p.2
  | [], _ => fun _ hp => absurd hp List.not_mem_nil
  | (_, v) :: ps, ⟨hv, hps⟩ => fun p hp => by
    cases hp with
    | head => exact stopsDeep_of_printable v hv
    | tail _ hp => exact stopsDeep_fields ps hps p hp

end

/-! ## A stopped read keeps its fault -/

def Faulty (r : Node × Option Cursor) : Prop := r.2 = none → r.1.fault?.isSome

theorem faulty_read (n : Node) (c : Cursor) : Faulty (n, some c) := nofun

theorem faulty_bad (f : Fault) : Faulty (.bad f, none) := fun _ => rfl

theorem faulty_arr_stop (items : List Node) (st : Stop) : Faulty (.arr items (some st), none) := by
  intro _
  simp only [Node.fault?]
  split <;> rfl

theorem faulty_obj_stop (fields : List (String × Node)) (st : Stop) :
    Faulty (.obj fields (some st), none) := by
  intro _
  simp only [Node.fault?]
  split <;> rfl

theorem faultInItems_isSome (items : List Node) (x : Node) (hx : x ∈ items)
    (hFault : x.fault?.isSome) : (Node.faultInItems? items).isSome := by
  induction items with
  | nil => cases hx
  | cons n ns ih =>
    simp only [Node.faultInItems?]
    cases hn : n.fault? with
    | some f => rfl
    | none =>
      cases hx with
      | head => simp [hn] at hFault
      | tail _ hx => exact ih hx

theorem faultInFields_isSome (fields : List (String × Node)) (p : String × Node)
    (hp : p ∈ fields) (hFault : p.2.fault?.isSome) : (Node.faultInFields? fields).isSome := by
  induction fields with
  | nil => cases hp
  | cons q qs ih =>
    obtain ⟨k, v⟩ := q
    simp only [Node.faultInFields?]
    cases hv : v.fault? with
    | some f => rfl
    | none =>
      cases hp with
      | head => simp [hv] at hFault
      | tail _ hp => exact ih hp

theorem faulty_of_eq {r r' : Node × Option Cursor} (h : r = r') (hr : Faulty r) : Faulty r' :=
  h ▸ hr

theorem faulty_arr_last (item : Node) (acc : List Node) (hItem : Faulty (item, none)) :
    Faulty (.arr (item :: acc).reverse none, none) := by
  intro _
  have hItemFault := faultInItems_isSome (item :: acc).reverse item (by simp) (hItem rfl)
  dsimp only
  simp only [Node.fault?]
  cases h : Node.faultInItems? (item :: acc).reverse with
  | some f => rfl
  | none => simp_all

theorem faulty_obj_last (key : String) (v : Node) (acc : List (String × Node))
    (hValue : Faulty (v, none)) : Faulty (.obj ((key, v) :: acc).reverse none, none) := by
  intro _
  have hValueFault := faultInFields_isSome ((key, v) :: acc).reverse (key, v) (by simp)
    (hValue rfl)
  dsimp only
  simp only [Node.fault?]
  cases h : Node.faultInFields? ((key, v) :: acc).reverse with
  | some f => rfl
  | none => simp_all

theorem faulty_of_read (fuel : Nat) :
    (∀ c, Faulty (readValue fuel c)) ∧ (∀ c first acc, Faulty (readItems fuel c first acc)) ∧
      (∀ c first acc, Faulty (readFields fuel c first acc)) := by
  induction fuel with
  | zero =>
    exact ⟨fun _ => faulty_bad _, fun _ _ _ => faulty_arr_stop _ _,
      fun _ _ _ => faulty_obj_stop _ _⟩
  | succ fuel ih =>
    obtain ⟨hValue, hItems, hFields⟩ := ih
    refine ⟨fun c => ?_, fun c first acc => ?_, fun c first acc => ?_⟩
    · -- each branch reads a scalar, stops with a fault, or reads a container's contents
      rw [readValue]
      repeat' split
      all_goals first
        | exact faulty_read _ _ | exact faulty_bad _ | exact faulty_arr_stop _ _
        | exact faulty_obj_stop _ _ | exact hItems _ _ _ | exact hFields _ _ _
    · rw [readItems]
      dsimp only
      repeat' split
      all_goals first
        | exact faulty_read _ _ | exact faulty_arr_stop _ _ | exact hItems _ _ _
        | exact faulty_arr_last _ _ (faulty_of_eq (by assumption) (hValue _))
    · rw [readFields]
      dsimp only
      repeat' split
      all_goals first
        | exact faulty_read _ _ | exact faulty_obj_stop _ _ | exact hFields _ _ _
        | exact faulty_obj_last _ _ _ (faulty_of_eq (by assumption) (hValue _))

/-! ## Reading a printed document -/

theorem skipBlank_nil (c : Cursor) (h : c.rest = []) : c.skipBlank = c := by
  simp [skipBlank, h]

theorem read_compact (n : Node) (hn : n.Printable) (hDepth : n.depth ≤ maxDepth) :
    read n.compact = ⟨n.sorted, none⟩ := by
  obtain ⟨c', hRead, hRest, -⟩ := readsBack_of_printable n hn
    (2 * (Cursor.start n.compact).rest.length + 4) (Cursor.start n.compact) []
    (by simp [Cursor.start]) (by simp [Cursor.start]; omega) (by simpa [Cursor.start] using hDepth)
  simp only [read, hRead, skipBlank_nil c' hRest, peek, hRest, List.head?_nil]

theorem read_compact_deep (n : Node) (hn : n.Printable) (hDeep : maxDepth < n.depth) :
    ((read n.compact).root.fault?).isSome ∧ (read n.compact).trailing = none := by
  have hStopped := stopsDeep_of_printable n hn (2 * (Cursor.start n.compact).rest.length + 4)
    (Cursor.start n.compact) [] (by simp [Cursor.start]) (by simp [Cursor.start]; omega)
    (by simp [Cursor.start, maxDepth]) (by simpa [Cursor.start] using hDeep)
  have hFaulty := (faulty_of_read (2 * (Cursor.start n.compact).rest.length + 4)).1
    (Cursor.start n.compact) hStopped
  unfold read
  dsimp only
  generalize readValue (2 * (Cursor.start n.compact).rest.length + 4) (Cursor.start n.compact) = r
    at hStopped hFaulty ⊢
  obtain ⟨root, stop⟩ := r
  cases stop with
  | none => exact ⟨hFaulty, rfl⟩
  | some c => cases hStopped

end AdminShell.Json

import ModelWiring.Proofs.Json.Number
import ModelWiring.Proofs.Json.Text
import ModelWiring.Proofs.Action

/-!
Values in JSON, and what is received of them: words as texts, tuples as lists,
keys as texts. What can be written is read back as that, by a reader that goes
deep enough.
-/

namespace ModelWiring

namespace Value

mutual

/-- What is received of a value that is sent. -/
def received : Value → Value
  | choice c => text c.text
  | list items | tuple items => list (receivedItems items)
  | map entries | frozen entries => map (receivedEntries entries)
  | v => v

def receivedItems : List Value → List Value
  | [] => []
  | v :: rest => v.received :: receivedItems rest

def receivedEntries : Table → Table
  | [] => []
  | (key, v) :: rest => (.plain key.text, v.received) :: receivedEntries rest

end

mutual

/-- How many lists and tables stand inside each other in a value. -/
def depth : Value → Nat
  | list items | tuple items => itemsDepth items + 1
  | map entries | frozen entries => entriesDepth entries + 1
  | _ => 0

def itemsDepth : List Value → Nat
  | [] => 0
  | v :: rest => max v.depth (itemsDepth rest)

def entriesDepth : Table → Nat
  | [] => 0
  | (_, v) :: rest => max v.depth (entriesDepth rest)

end

mutual

/-- What is received is as deep as what was sent. -/
@[simp]
theorem depth_received : ∀ v : Value, v.received.depth = v.depth
  | list items | tuple items => congrArg (· + 1) (itemsDepth_received items)
  | map entries | frozen entries => congrArg (· + 1) (entriesDepth_received entries)
  | null | bool _ | int _ | float _ | text _ | choice _ | bias .. | record .. | ref _ => rfl

theorem itemsDepth_received : ∀ items : List Value,
    itemsDepth (receivedItems items) = itemsDepth items
  | [] => rfl
  | v :: rest => by
      rw [receivedItems, itemsDepth, itemsDepth, depth_received v, itemsDepth_received rest]

theorem entriesDepth_received : ∀ entries : Table,
    entriesDepth (receivedEntries entries) = entriesDepth entries
  | [] => rfl
  | (_, v) :: rest => by
      rw [receivedEntries, entriesDepth, entriesDepth, depth_received v,
        entriesDepth_received rest]

end

@[simp]
theorem keys_receivedEntries (entries : Table) :
    Keyed.keys (receivedEntries entries) = Keyed.keys entries := by
  induction entries with
  | nil => rfl
  | cons entry rest ih => exact congrArg (entry.1.text :: ·) ih

end Value

namespace Json

mutual

/-- The values that can be written, but for numbers that are too long or not
finite, and tables with a key twice. -/
def Writable : Value → Prop
  | .null | .bool _ | .text _ | .choice _ => True
  | .int n => n.natAbs < powerOfTen greatestDigitCount
  | .float x => x.IsStandard
  | .list items | .tuple items => WritableItems items
  | .map entries => (Keyed.keys entries).Nodup ∧ WritableEntries entries
  | .bias .. | .frozen _ | .record .. | .ref _ => False

def WritableItems : List Value → Prop
  | [] => True
  | v :: rest => Writable v ∧ WritableItems rest

def WritableEntries : Table → Prop
  | [] => True
  | (_, v) :: rest => Writable v ∧ WritableEntries rest

end

/-- Whether a value can start with a character. -/
def starts (c : Char) : Bool :=
  !isSpace c && c ≠ ']' && c ≠ '\x7d'

/-- A text is written for a value, and read as what is received of it. -/
structure Written (v : Value) (s : List Char) : Prop where
  write_eq : write v = .ok s
  start : s.head?.any starts = true
  reads : ∀ {fuel depth : Nat} {rest : List Char}, s.length ≤ fuel → v.depth ≤ depth →
    Ends rest → readValue fuel depth (s ++ rest) = .ok (v.received, rest)

theorem skipSpace_of_start {s : List Char} (h : s.head?.all (!isSpace ·) = true) :
    skipSpace s = s := by
  cases s with
  | nil => rfl
  | cons c rest =>
      have hc : isSpace c = false := by simpa using h
      rw [skipSpace, List.dropWhile_cons, hc]
      rfl

theorem skipSpace_of_starts {s : List Char} (h : s.head?.any starts = true) (tail : List Char) :
    skipSpace (s ++ tail) = s ++ tail := by
  apply skipSpace_of_start
  cases s with
  | nil => cases h
  | cons c rest => exact (Bool.and_eq_true_iff.mp (Bool.and_eq_true_iff.mp h).1).1

/-- What starts like a value is not the end of one. -/
theorem ne_of_starts {s : List Char} (h : s.head?.any starts = true) {mark : Char}
    (hmark : starts mark = false) (tail rest : List Char) : s ++ tail ≠ mark :: rest := by
  cases s with
  | nil => cases h
  | cons c more =>
      intro heq
      rw [List.head?_cons, Option.any_some, (List.cons.inj heq).1, hmark] at h
      cases h

/-- A value that is read without looking into others. -/
theorem Written.of_leaf {v : Value} {s : List Char} (hwrite : write v = .ok s)
    (hstart : s.head?.any starts = true)
    (hreads : ∀ fuel depth rest, Ends rest → readValue (fuel + 1) depth (s ++ rest) =
      .ok (v.received, rest)) : Written v s := by
  refine ⟨hwrite, hstart, fun {fuel depth rest} hfuel _ hrest => ?_⟩
  cases s with
  | nil => cases hstart
  | cons c more =>
      cases fuel with
      | zero => cases hfuel
      | succ fuel => exact hreads fuel depth rest hrest

/-- A value that others stand in. -/
theorem Written.of_nest {v : Value} {s : List Char} {inner : Nat} (hwrite : write v = .ok s)
    (hstart : s.head?.any starts = true) (hdepth : v.depth = inner + 1)
    (hreads : ∀ {fuel depth rest}, s.length ≤ fuel + 1 → inner ≤ depth →
      readValue (fuel + 1) (depth + 1) (s ++ rest) = .ok (v.received, rest)) : Written v s := by
  refine ⟨hwrite, hstart, fun {fuel depth rest} hfuel hlimit _ => ?_⟩
  cases s with
  | nil => cases hstart
  | cons c more =>
      cases fuel with
      | zero => cases hfuel
      | succ fuel =>
          cases depth with
          | zero => omega
          | succ depth => exact hreads hfuel (by omega)

theorem written_null : Written .null "null".toList :=
  .of_leaf rfl rfl fun _ _ _ _ => rfl

theorem written_bool (b : Bool) :
    Written (.bool b) (if b then "true" else "false").toList := by
  cases b with
  | true => exact .of_leaf rfl rfl fun _ _ _ _ => rfl
  | false => exact .of_leaf rfl rfl fun _ _ _ _ => rfl

theorem written_text (s : String) {v : Value} (hwrite : write v = .ok (writeText s))
    (hreceived : v.received = .text s) : Written v (writeText s) := by
  refine .of_leaf hwrite rfl fun fuel depth rest _ => ?_
  rw [writeText, List.append_assoc, List.singleton_append, List.cons_append, readValue]
  rw [readText_writeText, hreceived]
  rfl

theorem readWord?_number {s : List Char} (h : s.head?.any Numeral.isDigit = true)
    (negative : Bool) : readWord? (sign negative ++ s) = none := by
  cases s with
  | nil => cases h
  | cons c rest =>
      have hdigit (d : Char) (hd : Numeral.isDigit d = false) : d ≠ c := by
        rintro rfl
        rw [List.head?_cons, Option.any_some, hd] at h
        cases h
      cases negative with
      | true =>
          simp [readWord?, words, takeWord?, sign, hdigit 'I' (by decide)]
      | false =>
          simp [readWord?, words, takeWord?, sign, hdigit 'n' (by decide),
            hdigit 't' (by decide), hdigit 'f' (by decide), hdigit 'N' (by decide),
            hdigit 'I' (by decide), hdigit '-' (by decide)]

theorem start_number {s : List Char} (h : s.head?.any Numeral.isDigit = true) (negative : Bool) :
    (sign negative ++ s).head?.any (fun c => Numeral.isDigit c || c = '-') = true := by
  cases negative with
  | true => rfl
  | false =>
      cases s with
      | nil => cases h
      | cons c rest => exact Bool.or_eq_true_iff.mpr (.inl h)

theorem starts_of_number {c : Char} (h : (Numeral.isDigit c || c = '-') = true) :
    starts c = true := by
  have hmarks : [' ', '\t', '\n', '\r', ']', '\x7d'].all
      (fun d => !(Numeral.isDigit d || d = '-')) = true := by decide
  have hother : ∀ d ∈ [' ', '\t', '\n', '\r', ']', '\x7d'], c ≠ d := by
    rintro d hd rfl
    have hmark := List.all_eq_true.mp hmarks c hd
    rw [h] at hmark
    cases hmark
  simp [starts, isSpace, hother]

/-- What starts like a number is read as one. -/
theorem readValue_number {s : List Char} (h : s.head?.any Numeral.isDigit = true)
    (negative : Bool) (fuel depth : Nat) :
    readValue (fuel + 1) depth (sign negative ++ s) = readNumber (sign negative ++ s) := by
  have hword := readWord?_number h negative
  have hstart := start_number h negative
  have hother (mark : Char) (hmark : (Numeral.isDigit mark || mark = '-') = false)
      (rest : List Char) : sign negative ++ s ≠ mark :: rest := by
    intro heq
    rw [heq, List.head?_cons, Option.any_some, hmark] at hstart
    cases hstart
  rw [readValue, hword]
  · exact fun rest => hother '"' (by decide) rest
  · exact fun rest => hother '[' (by decide) rest
  · exact fun rest => hother '\x7b' (by decide) rest

theorem written_number {v : Value} {s : List Char} (hwrite : write v = .ok s)
    (h : NumberText s v.received) : Written v s := by
  obtain ⟨negative, digits, rfl, hdigits⟩ := h.start
  refine .of_leaf hwrite ?_ fun fuel depth rest hrest => ?_
  · have hstart := start_number hdigits negative
    cases htext : sign negative ++ digits with
    | nil => rw [htext] at hstart; cases hstart
    | cons c more =>
        rw [htext] at hstart
        exact starts_of_number hstart
  · have hdigits' : (digits ++ rest).head?.any Numeral.isDigit = true := by
      cases digits with
      | nil => cases hdigits
      | cons c more => exact hdigits
    rw [List.append_assoc, readValue_number hdigits', ← List.append_assoc]
    exact h.reads rest hrest

theorem writeInt_eq {n : Int} (h : n.natAbs < powerOfTen greatestDigitCount) :
    write (.int n) = .ok (toString n).toList := by
  rw [write, writeInt, if_neg (Nat.not_le.mpr h)]

theorem write_float {x : Double} (h : x.IsStandard) : write (.float x) = .ok x.toText.toList := by
  cases x with
  | nan tag => cases h
  | infinite negative => cases h
  | finite negative significand exponent => rfl

/-- The text of items that are not none: it is read as what is received of
them, up to the closing bracket. -/
structure WrittenItems (items : List Value) (s : List Char) : Prop where
  write_eq : writeItems items = .ok s
  start : s.head?.any starts = true
  reads : ∀ {fuel depth : Nat} {rest : List Char}, s.length + 1 ≤ fuel →
    Value.itemsDepth items ≤ depth →
    readItems fuel depth (s ++ ']' :: rest) = .ok (Value.receivedItems items, rest)

theorem Written.singleton {v : Value} {s : List Char} (h : Written v s) : WrittenItems [v] s := by
  refine ⟨?_, h.start, fun {fuel depth rest} hfuel hdepth => ?_⟩
  · rw [writeItems, h.write_eq]
    rfl
  · cases fuel with
    | zero => cases hfuel
    | succ fuel =>
        have hv : readValue fuel depth (s ++ ']' :: rest) = _ :=
          h.reads (Nat.le_of_succ_le_succ hfuel) (Nat.le_trans (Nat.le_max_left _ _) hdepth) rfl
        rw [readItems, hv]
        rfl

theorem Written.cons {v : Value} {items : List Value} {s more : List Char} (h : Written v s)
    (hitems : WrittenItems items more) (hsome : items ≠ []) :
    WrittenItems (v :: items) (s ++ ',' :: more) := by
  refine ⟨?_, ?_, fun {fuel depth rest} hfuel hdepth => ?_⟩
  · rw [writeItems, h.write_eq, hitems.write_eq]
    simp [hsome]
    rfl
  · cases s with
    | nil => cases h.start
    | cons c rest => exact h.start
  · cases fuel with
    | zero => cases hfuel
    | succ fuel =>
        rw [List.length_append, List.length_cons] at hfuel
        have hv : readValue fuel depth (s ++ ',' :: (more ++ ']' :: rest)) = _ :=
          h.reads (by omega) (Nat.le_trans (Nat.le_max_left _ _) hdepth) rfl
        have hmore : readItems fuel depth (more ++ ']' :: rest) = _ :=
          hitems.reads (by omega) (Nat.le_trans (Nat.le_max_right _ _) hdepth)
        have hcomma : skipSpace (',' :: (more ++ ']' :: rest)) = ',' :: (more ++ ']' :: rest) := rfl
        rw [List.append_assoc, List.cons_append, readItems, hv]
        simp only [ok_bind, hcomma, skipSpace_of_starts hitems.start, hmore]
        rfl

theorem written_list {items : List Value} {s : List Char} (h : WrittenItems items s) {v : Value}
    (hwrite : write v = .ok ('[' :: (s ++ [']'])))
    (hreceived : v.received = .list (Value.receivedItems items))
    (hdepth : v.depth = Value.itemsDepth items + 1) : Written v ('[' :: (s ++ [']'])) := by
  refine .of_nest hwrite rfl hdepth fun {fuel depth rest} hfuel hlimit => ?_
  rw [List.length_cons, List.length_append, List.length_singleton] at hfuel
  have hitems : readItems fuel depth (s ++ ']' :: rest) = _ := h.reads (by omega) hlimit
  rw [List.cons_append, List.append_assoc, List.singleton_append, readValue, hreceived]
  simp only [enter, ok_bind, skipSpace_of_starts h.start]
  split
  · next heq => exact absurd heq (ne_of_starts h.start (by decide) _ _)
  · rw [hitems]
    rfl

theorem written_noItems {v : Value} (hwrite : write v = .ok ['[', ']'])
    (hreceived : v.received = .list []) (hdepth : v.depth = 1) : Written v ['[', ']'] := by
  refine .of_nest hwrite rfl hdepth fun _ _ => ?_
  rw [hreceived]
  rfl

/-- The text of entries that are not none: it is read as what is received of
them, up to the closing brace, into a table that has none of the keys. -/
structure WrittenEntries (entries : Table) (s : List Char) : Prop where
  write_eq : writeEntries entries = .ok s
  start : s.head? = some '"'
  reads : ∀ {fuel depth : Nat} {table : Table} {rest : List Char}, s.length + 1 ≤ fuel →
    Value.entriesDepth entries ≤ depth → (Keyed.keys (table ++ entries)).Nodup →
    readMembers fuel depth table (s ++ '\x7d' :: rest) =
      .ok (table ++ Value.receivedEntries entries, rest)

/-- The text of one entry. -/
def entryText (key : Key) (s : List Char) : List Char :=
  writeText key.text ++ ':' :: s

theorem length_entryText (key : Key) (s : List Char) : s.length + 1 ≤ (entryText key s).length := by
  simp only [entryText, List.length_append, List.length_cons]
  omega

theorem entryText_append (key : Key) (s rest : List Char) :
    entryText key s ++ rest =
      '"' :: (key.text.toList.flatMap escapeChar ++ '"' :: ':' :: (s ++ rest)) := by
  simp [entryText, writeText]

theorem new_of_nodup {key : Key} {v : Value} {table entries : Table}
    (h : (Keyed.keys (table ++ (key, v) :: entries)).Nodup) : key.text ∉ Keyed.keys table := by
  rw [Keyed.keys_append, List.nodup_append] at h
  exact fun hmem => h.2.2 key.text hmem key.text List.mem_cons_self rfl

theorem put_received {key : Key} {table : Table} (hnew : key.text ∉ Keyed.keys table)
    (v : Value) : Keyed.put (.plain key.text) v table = table ++ [(.plain key.text, v)] := by
  have hplain : Keying.text (Key.plain key.text) ∉ Keyed.keys table := hnew
  exact Keyed.put_of_not_mem hplain v

section

variable {v : Value} {s : List Char} (h : Written v s) (key : Key) {fuel depth : Nat}
  {table : Table} (hfuel : s.length ≤ fuel) (hdepth : v.depth ≤ depth)
  (hnew : key.text ∉ Keyed.keys table) (rest : List Char)

include h hfuel hdepth hnew

/-- The last entry is written under its key into the table. -/
theorem readMembers_last :
    readMembers (fuel + 1) depth table (entryText key s ++ '\x7d' :: rest) =
      .ok (table ++ [(.plain key.text, v.received)], rest) := by
  have hv : readValue fuel depth (s ++ '\x7d' :: rest) = _ := h.reads hfuel hdepth rfl
  have hcolon : skipSpace (':' :: (s ++ '\x7d' :: rest)) = ':' :: (s ++ '\x7d' :: rest) := rfl
  have hbrace : skipSpace ('\x7d' :: rest) = '\x7d' :: rest := rfl
  have hput := put_received hnew v.received
  rw [entryText_append, readMembers, readText_writeText]
  simp only [ok_bind, hcolon, skipSpace_of_starts h.start, hv, hbrace, hput]
  rfl

/-- Any other entry is, too, and reading goes on behind the comma. -/
theorem readMembers_next :
    readMembers (fuel + 1) depth table (entryText key s ++ ',' :: rest) =
      readMembers fuel depth (table ++ [(.plain key.text, v.received)]) (skipSpace rest) := by
  have hv : readValue fuel depth (s ++ ',' :: rest) = _ := h.reads hfuel hdepth rfl
  have hcolon : skipSpace (':' :: (s ++ ',' :: rest)) = ':' :: (s ++ ',' :: rest) := rfl
  have hcomma : skipSpace (',' :: rest) = ',' :: rest := rfl
  have hput := put_received hnew v.received
  rw [entryText_append, readMembers, readText_writeText]
  simp only [ok_bind, hcolon, skipSpace_of_starts h.start, hv, hcomma, hput]

end

theorem Written.entry {v : Value} {s : List Char} (h : Written v s) (key : Key) :
    WrittenEntries [(key, v)] (entryText key s) := by
  refine ⟨?_, rfl, fun {fuel depth table rest} hfuel hdepth hdistinct => ?_⟩
  · rw [writeEntries, h.write_eq]
    rfl
  · have hlength := length_entryText key s
    cases fuel with
    | zero => cases hfuel
    | succ fuel =>
        exact readMembers_last h key (by omega) (Nat.le_trans (Nat.le_max_left _ _) hdepth)
          (new_of_nodup hdistinct) rest

theorem Written.entry_cons {v : Value} {entries : Table} {s more : List Char} (h : Written v s)
    (key : Key) (hentries : WrittenEntries entries more) (hsome : entries ≠ []) :
    WrittenEntries ((key, v) :: entries) (entryText key s ++ ',' :: more) := by
  refine ⟨?_, rfl, fun {fuel depth table rest} hfuel hdepth hdistinct => ?_⟩
  · rw [writeEntries, h.write_eq, hentries.write_eq]
    simp [hsome, entryText]
    rfl
  · have hlength := length_entryText key s
    have hnew := new_of_nodup hdistinct
    have hdistinct' :
        (Keyed.keys ((table ++ [(.plain key.text, v.received)]) ++ entries)).Nodup := by
      rw [List.append_assoc, Keyed.keys_append] at *
      exact hdistinct
    rw [List.length_append, List.length_cons] at hfuel
    cases fuel with
    | zero => cases hfuel
    | succ fuel =>
        have hmore : readMembers fuel depth (table ++ [(.plain key.text, v.received)])
            (more ++ '\x7d' :: rest) = _ :=
          hentries.reads (by omega) (Nat.le_trans (Nat.le_max_right _ _) hdepth) hdistinct'
        have hskip : skipSpace (more ++ '\x7d' :: rest) = more ++ '\x7d' :: rest :=
          skipSpace_of_starts (by rw [hentries.start]; rfl) _
        rw [List.append_assoc, List.cons_append, readMembers_next h key (by omega)
          (Nat.le_trans (Nat.le_max_left _ _) hdepth) hnew, hskip, hmore, List.append_assoc]
        rfl

theorem written_map {entries : Table} {s : List Char} (h : WrittenEntries entries s)
    (hdistinct : (Keyed.keys entries).Nodup) :
    Written (.map entries) ('\x7b' :: (s ++ ['\x7d'])) := by
  refine .of_nest ?_ rfl rfl fun {fuel depth rest} hfuel hlimit => ?_
  · rw [write, h.write_eq]
    rfl
  · rw [List.length_cons, List.length_append, List.length_singleton] at hfuel
    have hmembers : readMembers fuel depth [] (s ++ '\x7d' :: rest) = _ :=
      h.reads (by omega) hlimit hdistinct
    have hstart : s.head?.any starts = true := by rw [h.start]; rfl
    rw [List.cons_append, List.append_assoc, List.singleton_append, readValue]
    simp only [enter, ok_bind, skipSpace_of_starts hstart]
    split
    · next heq => exact absurd heq (ne_of_starts hstart (by decide) _ _)
    · rw [hmembers]
      rfl

theorem written_noEntries : Written (.map []) ['\x7b', '\x7d'] :=
  .of_nest rfl rfl rfl fun _ _ => rfl

mutual

/-- Whatever can be written is read as what is received of it. -/
theorem exists_written : ∀ {v : Value}, Writable v → ∃ s, Written v s
  | .null, _ => ⟨_, written_null⟩
  | .bool b, _ => ⟨_, written_bool b⟩
  | .int n, h => ⟨_, written_number (writeInt_eq h) (numberText_int h)⟩
  | .float x, h => ⟨_, written_number (write_float h) (numberText_float h)⟩
  | .text s, _ => ⟨_, written_text s rfl rfl⟩
  | .choice c, _ => ⟨_, written_text c.text rfl rfl⟩
  | .list [], _ => ⟨_, written_noItems rfl rfl rfl⟩
  | .tuple [], _ => ⟨_, written_noItems rfl rfl rfl⟩
  | .list (v :: rest), h =>
      let ⟨_, hs⟩ := exists_writtenItems (v :: rest) (by simp) h
      ⟨_, written_list hs (by rw [write, hs.write_eq]; rfl) rfl rfl⟩
  | .tuple (v :: rest), h =>
      let ⟨_, hs⟩ := exists_writtenItems (v :: rest) (by simp) h
      ⟨_, written_list hs (by rw [write, hs.write_eq]; rfl) rfl rfl⟩
  | .map [], _ => ⟨_, written_noEntries⟩
  | .map (entry :: rest), h =>
      let ⟨_, hs⟩ := exists_writtenEntries (entry :: rest) (by simp) h.2
      ⟨_, written_map hs h.1⟩

theorem exists_writtenItems : ∀ items : List Value, items ≠ [] → WritableItems items →
    ∃ s, WrittenItems items s
  | [], hsome, _ => absurd rfl hsome
  | [_], _, h =>
      let ⟨_, hs⟩ := exists_written h.1
      ⟨_, hs.singleton⟩
  | _ :: w :: rest, _, h =>
      let ⟨_, hs⟩ := exists_written h.1
      let ⟨_, hmore⟩ := exists_writtenItems (w :: rest) (by simp) h.2
      ⟨_, hs.cons hmore (by simp)⟩

theorem exists_writtenEntries : ∀ entries : Table, entries ≠ [] → WritableEntries entries →
    ∃ s, WrittenEntries entries s
  | [], hsome, _ => absurd rfl hsome
  | [(key, _)], _, h =>
      let ⟨_, hs⟩ := exists_written h.1
      ⟨_, hs.entry key⟩
  | (key, _) :: entry :: rest, _, h =>
      let ⟨_, hs⟩ := exists_written h.1
      let ⟨_, hmore⟩ := exists_writtenEntries (entry :: rest) (by simp) h.2
      ⟨_, hs.entry_cons key hmore (by simp)⟩

end

/-- Reads a text with lists and tables in it down to a depth. -/
def readWithin (limit : Nat) (s : List Char) : Except Fault Value := do
  let s := skipSpace s
  let (v, rest) ← readValue (s.length + 1) limit s
  if (skipSpace rest).isEmpty then return v else throw .unreadableAnswer

theorem read_eq_readWithin : read = readWithin greatestDepth := rfl

/-- What is written is read as what is received of it, down to its depth. -/
theorem readWithin_write {v : Value} (h : Writable v) :
    ∃ s, write v = .ok s ∧ ∀ limit, v.depth ≤ limit → readWithin limit s = .ok v.received := by
  obtain ⟨s, hs⟩ := exists_written h
  refine ⟨s, hs.write_eq, fun limit hlimit => ?_⟩
  have hread : readValue (s.length + 1) limit (s ++ []) = .ok (v.received, []) :=
    hs.reads (Nat.le_succ _) hlimit rfl
  rw [readWithin, ← List.append_nil s, skipSpace_of_starts hs.start, List.append_nil]
  rw [List.append_nil] at hread
  simp only [hread, ok_bind]
  rfl

end Json

end ModelWiring

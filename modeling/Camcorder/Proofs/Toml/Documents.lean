import Mathlib
import Camcorder.Proofs.Toml.Quoting
import Camcorder.Proofs.Toml.Words

/-!
# Documents read back

A document that is written table by table, with a line for each key, reads as these tables. `Reads` says what a piece
of a document makes of what was read before it, whatever follows: `Reads.header` and `Reads.pair` are about one line,
`Reads.table` about the lines of a table, and `read?_of_reads` about the document as a whole.
-/

namespace Camcorder.Toml

/-! ## Keys -/

theorem skipBlanks_of_head {c : Char} (cs : List Char) (solid : (c == ' ' || c == '\t') = false) :
    skipBlanks (c :: cs) = c :: cs := List.dropWhile_cons_of_neg (by rw [solid]; nofun)

/-- A name that needs no quotation marks. -/
structure Bare (name : String) : Prop where
  ne : name.toList ≠ []
  letters : ∀ c ∈ name.toList, isKeyChar c = true

instance (name : String) : Decidable (Bare name) :=
  decidable_of_iff (name.toList.isEmpty = false ∧ name.toList.all isKeyChar = true)
    ⟨fun ⟨inhabited, letters⟩ => ⟨List.isEmpty_eq_false_iff.mp inhabited, List.all_eq_true.mp letters⟩,
      fun bare => ⟨List.isEmpty_eq_false_iff.mpr bare.ne, List.all_eq_true.mpr bare.letters⟩⟩

/-- A bare name is a key, up to what ends it. -/
theorem key?_bare {name : String} (bare : Bare name) {stop : Char} {rest : List Char} (ends : isKeyChar stop = false)
    (single : ∀ more, skipBlanks (stop :: rest) ≠ '.' :: more) :
    key? (name.toList ++ stop :: rest) = some ([name], skipBlanks (stop :: rest)) := by
  have word : (name.toList ++ stop :: rest).span isKeyChar = (name.toList, stop :: rest) := by
    have halt : ¬isKeyChar stop = true := by
      rw [ends]
      nofun
    rw [List.span_eq_takeWhile_dropWhile, List.takeWhile_append_of_pos bare.letters,
      List.dropWhile_append_of_pos bare.letters, List.takeWhile_cons_of_neg halt, List.dropWhile_cons_of_neg halt,
      List.append_nil]
  have part : keyPart? (skipBlanks (name.toList ++ stop :: rest)) = some (name, stop :: rest) := by
    obtain ⟨c, cs, text⟩ := List.exists_cons_of_ne_nil bare.ne
    have letter : isKeyChar c = true := bare.letters c (by rw [text]; exact List.mem_cons_self)
    have differs {d : Char} (sign : isKeyChar d = false) : c ≠ d := by
      rintro rfl
      exact absurd (sign.symm.trans letter) nofun
    have solid : (c == ' ' || c == '\t') = false := by
      rw [beq_false_of_ne (differs (by decide)), beq_false_of_ne (differs (by decide))]
      rfl
    have kept : skipBlanks (name.toList ++ stop :: rest) = name.toList ++ stop :: rest := by
      rw [text]
      exact skipBlanks_of_head _ solid
    have double : ∀ more, name.toList ++ stop :: rest = '"' :: more → False := by
      intro more same
      rw [text] at same
      exact differs (d := '"') (by decide) (List.cons.inj same).1
    have literal : ∀ more, name.toList ++ stop :: rest = '\'' :: more → False := by
      intro more same
      rw [text] at same
      exact differs (d := '\'') (by decide) (List.cons.inj same).1
    have some_ : name.toList.isEmpty = false := by
      rw [text]
      rfl
    rw [kept, keyPart?.eq_3 _ double literal, word]
    dsimp only
    rw [some_, if_neg Bool.false_ne_true, String.ofList_toList]
  unfold key? greatestDepth
  rw [keyParts?.eq_2, part]
  dsimp only [Option.bind_eq_bind, Option.bind_some]
  split
  · rename_i more same
    exact absurd same (single more)
  · rfl

/-! ## Values -/

/-- A text that reads as a value at the end of a line. -/
structure Denotes (text : String) (v : Value) : Prop where
  value : ∀ bound rest, value? (bound + 1) 0 (text.toList ++ '\n' :: rest) = some (v, '\n' :: rest)
  solid : ∃ c cs, text.toList = c :: cs ∧ (c == ' ' || c == '\t') = false

/-- A word denotes what is read of it. -/
theorem Denotes.word {text : String} {v : Value} (letters : ∀ c ∈ text.toList, isWordChar c = true)
    (read : ofWord? text.toList = some v) : Denotes text v := by
  refine ⟨fun bound rest => value?_word letters read bound 0 rest, ?_⟩
  cases written : text.toList with
  | nil =>
    rw [written] at read
    cases read
  | cons c cs =>
    have letter : isWordChar c = true := letters c (by rw [written]; exact List.mem_cons_self)
    have differs {d : Char} (sign : isWordChar d = false) : (c == d) = false := by
      refine beq_false_of_ne ?_
      rintro rfl
      exact absurd (sign.symm.trans letter) nofun
    refine ⟨c, cs, rfl, ?_⟩
    rw [differs (by decide), differs (by decide)]
    rfl

theorem Denotes.natText {n : Nat} (small : n ≤ greatestInteger) : Denotes (Decimal.natText n) (.integer n) :=
  .word (isWordChar_natText n) (ofWord?_natText small)

theorem Denotes.boolText (b : Bool) : Denotes (boolText b) (.bool b) :=
  .word (isWordChar_boolText b) (ofWord?_boolText b)

/-- What begins as a string is a text. -/
theorem value?_of_string? {cs : List Char} {found : Option (String × List Char)} (read : string? cs = some found)
    (bound depth : Nat) : value? (bound + 1) depth cs = found.map fun (s, rest) => (.text s, rest) := by
  by_cases bracket : ∃ more, cs = '[' :: more
  · obtain ⟨more, rfl⟩ := bracket
    cases read
  · by_cases brace : ∃ more, cs = '\x7b' :: more
    · obtain ⟨more, rfl⟩ := brace
      cases read
    · rw [value?.eq_4 _ _ _ (fun more same => bracket ⟨more, same⟩) fun more same => brace ⟨more, same⟩, read]

/-- A quoted text denotes the text. -/
theorem Denotes.quote (s : String) : Denotes (quote s) (.text s) := by
  constructor
  · intro bound rest
    have double : ('\n' :: rest).head? ≠ some '"' := fun same => absurd (Option.some.inj same) (by decide)
    have single : ('\n' :: rest).head? ≠ some '\'' := fun same => absurd (Option.some.inj same) (by decide)
    rw [value?_of_string? (string?_quote s double single)]
    rfl
  · obtain ⟨c, cs, written, rfl | rfl⟩ := quote_cons s
    · exact ⟨_, cs, written, rfl⟩
    · exact ⟨_, cs, written, rfl⟩

/-! ## Pieces of a document -/

/-- What a piece of a document makes of what was read before it, whatever follows. -/
def Reads (text : List Char) (d d' : Draft) : Prop :=
  ∃ n ≤ text.length, ∀ bound rest, lines? (bound + n + 1) d (text ++ rest) = lines? (bound + 1) d' rest

namespace Reads

variable {d d₁ d₂ : Draft}

theorem nil (d : Draft) : Reads [] d d := ⟨0, le_refl _, fun _ _ => rfl⟩

/-- Lines can be read one after the other. -/
theorem append {first second : List Char} (h₁ : Reads first d d₁) (h₂ : Reads second d₁ d₂) :
    Reads (first ++ second) d d₂ := by
  obtain ⟨n, few, read⟩ := h₁
  obtain ⟨m, few', read'⟩ := h₂
  refine ⟨n + m, ?_, ?_⟩
  · rw [List.length_append]
    exact Nat.add_le_add few few'
  · intro bound rest
    rw [List.append_assoc, Nat.add_comm n m, ← Nat.add_assoc bound, read, read']

/-- A blank line says nothing. -/
theorem blank (d : Draft) : Reads ['\n'] d d := ⟨0, Nat.zero_le _, fun _ _ => rfl⟩

/-- A line says what `line?` makes of it. -/
theorem line {text : List Char} {c : Char} {cs : List Char} (begins : text = c :: cs)
    (solid : (c == ' ' || c == '\t') = false) (comment : c ≠ '#') (feed : c ≠ '\n') (carriage : c ≠ '\r')
    (taken : ∀ bound rest, line? (bound + 1) d (text ++ rest) = some (d₁, rest)) : Reads text d d₁ := by
  refine ⟨1, by rw [begins]; exact Nat.succ_le_succ (Nat.zero_le _), ?_⟩
  intro bound rest
  have stays : skipLines? false (text ++ rest) = some (c :: (cs ++ rest)) := by
    rw [begins, List.cons_append, skipLines?.eq_5 _ _ feed fun _ same => absurd same carriage, solid,
      if_neg Bool.false_ne_true, beq_false_of_ne comment, if_neg Bool.false_ne_true]
  have read : line? (bound + 1) d (c :: (cs ++ rest)) = some (d₁, rest) := by
    have whole := taken bound rest
    rwa [begins] at whole
  rw [lines?.eq_2, stays]
  dsimp only [Option.bind_eq_bind, Option.bind_some]
  rw [read]
  rfl

end Reads

/-- A document reads as what its text makes of nothing. -/
theorem lines?_of_reads {text : List Char} {d : Draft} (h : Reads text {} d) :
    lines? (text.length + 1) {} text = some d := by
  obtain ⟨n, few, read⟩ := h
  have enough : text.length - n + n + 1 = text.length + 1 := by omega
  have whole := read (text.length - n) []
  rw [enough, List.append_nil] at whole
  rw [whole]
  rfl

/-! ## Tables -/

/-- A header begins a table, which is empty. -/
theorem Reads.header {name : String} (bare : Bare name) {d : Draft} (new : d.entries.lookup name = none) :
    Reads ('[' :: name.toList ++ [']', '\n']) d
      { entries := d.entries ++ [(name, .table .headed [])], header := [name] } := by
  refine .line (c := '[') rfl rfl (by decide) (by decide) (by decide) ?_
  intro bound rest
  have text : '[' :: name.toList ++ [']', '\n'] ++ rest = '[' :: (name.toList ++ ']' :: '\n' :: rest) := by
    simp only [List.cons_append, List.append_assoc, List.nil_append]
  have plain : ∀ more, name.toList ++ ']' :: '\n' :: rest = '[' :: more → False := by
    intro more same
    obtain ⟨c, cs, written⟩ := List.exists_cons_of_ne_nil bare.ne
    rw [written] at same
    have first : c = '[' := (List.cons.inj same).1
    have letter : isKeyChar c = true := bare.letters c (by rw [written]; exact List.mem_cons_self)
    rw [first] at letter
    exact absurd letter (by decide)
  have key : key? (name.toList ++ ']' :: '\n' :: rest) = some ([name], ']' :: '\n' :: rest) := by
    rw [key?_bare bare (by decide)]
    · rfl
    · intro more same
      cases same
  have added : d.addHeader? [name] false =
      some { entries := d.entries ++ [(name, .table .headed [])], header := [name] } := by
    have opened : Entries.open? name .headed d.entries = some (d.entries ++ [(name, .table .headed [])]) := by
      unfold Entries.open?
      rw [new]
    have changed : d.entries.update? false (Entries.open? name) [name].dropLast .headed =
      some (d.entries ++ [(name, .table .headed [])]) := opened
    unfold Draft.addHeader?
    simp only [List.getLast?_singleton, Option.bind_eq_bind, Option.bind_some, Bool.false_eq_true, if_false]
    rw [changed]
    rfl
  rw [text, line?.eq_2 _ _ _ plain, key]
  dsimp only [Option.bind_eq_bind, Option.bind_some]
  rw [added]
  rfl

/-- The document whose last table is `name`, the one that lines belong to. -/
def under (done : Entries) (name : String) (inner : Entries) : Draft :=
  { entries := done ++ [(name, .table .headed inner)], header := [name] }

theorem lookup_last {done : Entries} {name : String} (new : done.lookup name = none) (v : Value) :
    (done ++ [(name, v)]).lookup name = some v := by
  rw [List.lookup_append, new, List.lookup_cons, beq_self_eq_true]
  rfl

theorem replace_of_lookup_none {entries : Entries} {name : String} (new : entries.lookup name = none) (v : Value) :
    Entries.replace entries name v = entries := by
  have others := List.lookup_eq_none_iff.mp new
  unfold Entries.replace
  refine (List.map_congr_left ?_).trans (List.map_id entries)
  intro pair member
  have differs : (pair.1 == name) = false := by
    have apart := others pair member
    rw [bne_iff_ne] at apart
    exact beq_false_of_ne apart.symm
  dsimp only
  rw [differs]
  rfl

theorem replace_last {done : Entries} {name : String} (new : done.lookup name = none) (old v : Value) :
    Entries.replace (done ++ [(name, old)]) name v = done ++ [(name, v)] := by
  have last : Entries.replace [(name, old)] name v = [(name, v)] := by
    unfold Entries.replace
    rw [List.map_singleton]
    dsimp only
    rw [if_pos (beq_self_eq_true name)]
  have split : Entries.replace (done ++ [(name, old)]) name v =
      Entries.replace done name v ++ Entries.replace [(name, old)] name v := List.map_append
  rw [split, replace_of_lookup_none new, last]

/-- A pair goes into the last table. -/
theorem addPair?_under {done inner : Entries} {name key : String} (new : done.lookup name = none)
    (free : inner.lookup key = none) (v : Value) :
    (under done name inner).addPair? [key] v = some (under done name (inner ++ [(key, v)])) := by
  have assigned : Entries.assign? [key] v .headed inner = some (inner ++ [(key, v)]) := by
    have added : Entries.add? inner key v = some (inner ++ [(key, v)]) := by
      unfold Entries.add?
      rw [free]
      rfl
    exact added
  have changed : Entries.update? false (fun kind entries => entries.assign? [key] v kind) [name] .headed
      (done ++ [(name, .table .headed inner)]) = some (done ++ [(name, .table .headed (inner ++ [(key, v)]))]) := by
    have plain : ¬(TableKind.headed = .closed ∨ false = true ∧ TableKind.headed = .headed) := by decide
    rw [Entries.update?.eq_2, lookup_last new]
    dsimp only
    rw [if_neg plain, Entries.update?.eq_1, assigned, Option.bind_eq_bind, Option.bind_some, replace_last new]
    rfl
  unfold Draft.addPair? under
  dsimp only
  rw [changed]
  rfl

theorem expect?_self (c : Char) (cs : List Char) : expect? c (c :: cs) = some cs := by
  unfold expect?
  exact if_pos (beq_self_eq_true c)

/-- A line with a key and a value adds the pair to the table that lines belong to. -/
theorem Reads.pair {key text : String} {v : Value} (bare : Bare key) (value : Denotes text v) {d d' : Draft}
    (added : d.addPair? [key] v = some d') : Reads (Toml.line key text).toList d d' := by
  obtain ⟨c, cs, written⟩ := List.exists_cons_of_ne_nil bare.ne
  have letter : isKeyChar c = true := bare.letters c (by rw [written]; exact List.mem_cons_self)
  have differs {d : Char} (sign : isKeyChar d = false) : c ≠ d := by
    rintro rfl
    exact absurd (sign.symm.trans letter) nofun
  have solid : (c == ' ' || c == '\t') = false := by
    rw [beq_false_of_ne (differs (by decide)), beq_false_of_ne (differs (by decide))]
    rfl
  have spelled (rest : List Char) : (Toml.line key text).toList ++ rest =
      key.toList ++ ' ' :: '=' :: ' ' :: (text.toList ++ '\n' :: rest) := by
    unfold Toml.line
    simp only [String.toList_append, List.append_assoc]
    rfl
  have begins : (Toml.line key text).toList = c :: (cs ++ ' ' :: '=' :: ' ' :: (text.toList ++ ['\n'])) := by
    have whole := spelled []
    rw [List.append_nil, written] at whole
    exact whole
  refine .line begins solid (differs (by decide)) (differs (by decide)) (differs (by decide)) ?_
  intro bound rest
  have first {d : Char} (sign : isKeyChar d = false) (more : List Char) :
      key.toList ++ ' ' :: '=' :: ' ' :: (text.toList ++ '\n' :: rest) = d :: more → False := by
    intro same
    rw [written] at same
    exact differs sign (List.cons.inj same).1
  have key_ : key? (key.toList ++ ' ' :: '=' :: ' ' :: (text.toList ++ '\n' :: rest)) =
      some ([key], '=' :: ' ' :: (text.toList ++ '\n' :: rest)) := by
    rw [key?_bare bare (by decide)]
    · rfl
    · intro more same
      cases same
  have stays : skipBlanks (' ' :: (text.toList ++ '\n' :: rest)) = text.toList ++ '\n' :: rest := by
    obtain ⟨d, ds, written, solid⟩ := value.solid
    rw [written]
    exact skipBlanks_of_head _ solid
  rw [spelled, line?.eq_3 _ _ _ (fun _ => first (by decide) _) (first (by decide)), key_]
  dsimp only [Option.bind_eq_bind, Option.bind_some]
  rw [expect?_self]
  dsimp only [Option.bind_some]
  rw [stays, value.value]
  dsimp only [Option.bind_some]
  rw [added]
  rfl

/-- A field of a table: its key, the text of its value, and the value. -/
structure Field where
  key : String
  text : String
  value : Value

namespace Field

def line (f : Field) : String := Toml.line f.key f.text

def entry (f : Field) : String × Value := (f.key, f.value)

/-- The field is written as it is read. -/
structure Sound (f : Field) : Prop where
  bare : Bare f.key
  denotes : Denotes f.text f.value

variable {α : Type} {fields : List Field} {f : Field} {absent : α} {read? : Value → Option α}

/-- A field is found by its key. -/
theorem lookup_entry (apart : (fields.map key).Nodup) (member : f ∈ fields) :
    (fields.map entry).lookup f.key = some f.value := by
  induction fields with
  | nil => cases member
  | cons g fields ih =>
    rw [List.map_cons, List.nodup_cons] at apart
    rw [List.map_cons]
    unfold entry
    rw [List.lookup_cons]
    by_cases same : f.key = g.key
    · -- No other field has this key.
      have first : f = g := by
        rcases List.mem_cons.mp member with first | later
        · exact first
        · exact absurd (same ▸ List.mem_map_of_mem later) apart.1
      rw [first, beq_self_eq_true]
    · have later : f ∈ fields := (List.mem_cons.mp member).resolve_left fun first => same (congrArg key first)
      rw [beq_false_of_ne same]
      exact ih apart.2 later

/-- A field that is there is read. -/
theorem field_of_mem (apart : (fields.map key).Nodup) (member : f ∈ fields) :
    Entries.field (fields.map entry) f.key absent read? = read? f.value := by
  unfold Entries.field
  rw [lookup_entry apart member]

/-- A field that is not there has its default. -/
theorem field_of_not_mem {name : String} (missing : name ∉ fields.map key) :
    Entries.field (fields.map entry) name absent read? = some absent := by
  have none_ : (fields.map entry).lookup name = none := by
    refine List.lookup_eq_none_iff.mpr fun pair member => ?_
    obtain ⟨f, inside, rfl⟩ := List.mem_map.mp member
    rw [bne_iff_ne]
    exact fun same => missing (same ▸ List.mem_map_of_mem inside)
  unfold Entries.field
  rw [none_]

end Field

/-- The lines of a table add its fields to it. -/
theorem Reads.fields {done : Entries} {name : String} (new : done.lookup name = none) (fields : List Field)
    (sound : ∀ f ∈ fields, f.Sound) (inner : Entries)
    (apart : ((inner.map Prod.fst) ++ fields.map Field.key).Nodup) :
    Reads (fields.flatMap fun f => f.line.toList) (under done name inner)
      (under done name (inner ++ fields.map Field.entry)) := by
  induction fields generalizing inner with
  | nil =>
    rw [List.map_nil, List.append_nil]
    exact .nil _
  | cons f fields ih =>
    have free : inner.lookup f.key = none := by
      refine List.lookup_eq_none_iff.mpr fun pair member => ?_
      rw [bne_iff_ne]
      intro same
      exact List.disjoint_of_nodup_append apart (List.mem_map_of_mem member) (same ▸ List.mem_cons_self)
    have first : Reads f.line.toList (under done name inner) (under done name (inner ++ [f.entry])) :=
      .pair (sound f List.mem_cons_self).bare (sound f List.mem_cons_self).denotes (addPair?_under new free f.value)
    have rest := ih (fun g member => sound g (List.mem_cons_of_mem _ member)) (inner ++ [f.entry]) (by
      rw [List.map_append, List.append_assoc]
      exact apart)
    rw [List.append_assoc] at rest
    exact first.append rest

theorem toList_tableText (name : String) (fields : List Field) : (tableText name (fields.map Field.line)).toList =
    '[' :: name.toList ++ [']', '\n'] ++ fields.flatMap fun f => f.line.toList := by
  unfold tableText
  rw [String.toList_append, String.toList_append, String.toList_append, String.toList_join, List.flatMap_map]
  rfl

/-- A table reads as its fields. -/
theorem Reads.table {name : String} (bare : Bare name) {d : Draft} (new : d.entries.lookup name = none)
    (fields : List Field) (sound : ∀ f ∈ fields, f.Sound) (apart : (fields.map Field.key).Nodup) :
    Reads (tableText name (fields.map Field.line)).toList d (under d.entries name (fields.map Field.entry)) := by
  rw [toList_tableText]
  exact (Reads.header bare new).append (.fields new fields sound [] apart)

/-- A document goes on with a table after a blank line. -/
theorem Reads.append_table {text : List Char} {d d₁ : Draft} (h : Reads text d d₁) {name : String} (bare : Bare name)
    (new : d₁.entries.lookup name = none) (fields : List Field) (sound : ∀ f ∈ fields, f.Sound)
    (apart : (fields.map Field.key).Nodup) :
    Reads (text ++ '\n' :: (tableText name (fields.map Field.line)).toList) d
      (under d₁.entries name (fields.map Field.entry)) :=
  h.append ((Reads.blank d₁).append (.table bare new fields sound apart))

/-- A document that begins with a table reads as its tables. -/
theorem read?_of_reads {text : String} {d : Draft} (begins : text.toList.head? = some '[')
    (h : Reads text.toList {} d) : read? text = some (.table .headed d.entries) := by
  have unmarked : ∀ cs, text.toList ≠ '\ufeff' :: cs := by
    intro cs same
    rw [same] at begins
    exact absurd (Option.some.inj begins) (by decide)
  unfold read?
  split
  · rename_i same
    exact absurd same (unmarked _)
  · dsimp only
    rw [lines?_of_reads h]
    rfl

end Camcorder.Toml

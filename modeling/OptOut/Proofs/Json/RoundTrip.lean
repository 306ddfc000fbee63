import OptOut.Json.Record
import OptOut.Proofs.Json.Leaves

/-!
# Values read back

Reading undoes printing, on one line or over several. Both ways of printing are one, which differs
in the white space between the parts of a list or an object; the reader passes over it.
-/

namespace OptOut.Json

/-! ## Printing in any layout -/

/-- White space between the parts of a text. -/
structure Layout where
    /-- Before an item or a bracket that stands at a level. -/
    gap : Nat → List Char
    afterColon : List Char
    gap_space : ∀ level, ∀ char ∈ gap level, isSpace char = true
    after_colon_space : ∀ char ∈ afterColon, isSpace char = true

namespace Layout

def onOneLine : Layout :=
  ⟨fun _ => [], [], by simp, by simp⟩

def overLines : Layout where
  gap := lineAt
  afterColon := [' ']
  gap_space level char held := by
    rcases List.mem_cons.1 held with rfl | blank
    · rfl
    · rw [List.eq_of_mem_replicate blank]
      rfl
  after_colon_space := by simp [isSpace]

end Layout

variable (layout : Layout)

mutual

def render (level : Nat) : Value → List Char
  | .null => "null".toList
  | .bool true => "true".toList
  | .bool false => "false".toList
  | .number literal => printLiteral literal
  | .text value => printText value
  | .list [] => ['[', ']']
  | .list (item :: rest) =>
    '[' :: layout.gap (level + 1) ++ render (level + 1) item ++ renderItems level rest
  | .object [] => ['{', '}']
  | .object ((name, value) :: rest) =>
    '{' :: layout.gap (level + 1) ++ printText name ++ ':' :: layout.afterColon ++
      render (level + 1) value ++ renderFields level rest

def renderItems (level : Nat) : List Value → List Char
  | [] => layout.gap level ++ [']']
  | item :: rest =>
    ',' :: layout.gap (level + 1) ++ render (level + 1) item ++ renderItems level rest

def renderFields (level : Nat) : List (String × Value) → List Char
  | [] => layout.gap level ++ ['}']
  | (name, value) :: rest =>
    ',' :: layout.gap (level + 1) ++ printText name ++ ':' :: layout.afterColon ++
      render (level + 1) value ++ renderFields level rest

end

mutual

theorem print_eq_render (level : Nat) : ∀ value, print value = render .onOneLine level value
  | .null | .bool true | .bool false | .number _ | .text _ | .list [] | .object [] => rfl
  | .list (item :: rest) => by
    rw [print, render, print_eq_render (level + 1) item, print_items_eq_render level rest]
    rfl
  | .object ((name, value) :: rest) => by
    rw [print, render, print_eq_render (level + 1) value, print_fields_eq_render level rest]
    simp [Layout.onOneLine]

theorem print_items_eq_render (level : Nat) :
    ∀ items, printItems items = renderItems .onOneLine level items
  | [] => rfl
  | item :: rest => by
    rw [printItems, renderItems, print_eq_render (level + 1) item, print_items_eq_render level rest]
    rfl

theorem print_fields_eq_render (level : Nat) :
    ∀ fields, printFields fields = renderFields .onOneLine level fields
  | [] => rfl
  | (name, value) :: rest => by
    rw [printFields, renderFields, print_eq_render (level + 1) value,
      print_fields_eq_render level rest]
    simp [Layout.onOneLine]

end

mutual

theorem print_indented_eq_render (level : Nat) :
    ∀ value, printIndented level value = render .overLines level value
  | .null | .bool true | .bool false | .number _ | .text _ | .list [] | .object [] => rfl
  | .list (item :: rest) => by
    rw [printIndented, render, print_indented_eq_render (level + 1) item,
      indented_items_eq_render level rest]
    rfl
  | .object ((name, value) :: rest) => by
    rw [printIndented, render, print_indented_eq_render (level + 1) value,
      indented_fields_eq_render level rest]
    simp [Layout.overLines]

theorem indented_items_eq_render (level : Nat) :
    ∀ items, indentedItems level items = renderItems .overLines level items
  | [] => rfl
  | item :: rest => by
    rw [indentedItems, renderItems, print_indented_eq_render (level + 1) item,
      indented_items_eq_render level rest]
    rfl

theorem indented_fields_eq_render (level : Nat) :
    ∀ fields, indentedFields level fields = renderFields .overLines level fields
  | [] => rfl
  | (name, value) :: rest => by
    rw [indentedFields, renderFields, print_indented_eq_render (level + 1) value,
      indented_fields_eq_render level rest]
    simp [Layout.overLines]

end

/-! ## What is read -/

mutual

/-- What the reader makes of the text of a value. -/
def Value.source : Value → Source
  | .null => .null
  | .bool value => .bool value
  | .number literal => .number literal
  | .text value => .text (piecesOf value)
  | .list items => .list (sources items)
  | .object fields => .object (fieldSources fields)

def sources : List Value → List Source
  | [] => []
  | item :: rest => item.source :: sources rest

def fieldSources : List (String × Value) → List (List Piece × Source)
  | [] => []
  | (name, value) :: rest => (piecesOf name, value.source) :: fieldSources rest

end

mutual

/-- The numbers of a value are sound, and at most `depth` lists and objects nest in it. -/
def Value.Fits : Value → Nat → Prop
  | .null, _ | .bool _, _ | .text _, _ => True
  | .number literal, _ => literal.Sound
  | .list items, depth + 1 => ItemsFit items depth
  | .object fields, depth + 1 => FieldsFit fields depth
  | .list _, 0 | .object _, 0 => False

def ItemsFit : List Value → Nat → Prop
  | [], _ => True
  | item :: rest, depth => item.Fits depth ∧ ItemsFit rest depth

def FieldsFit : List (String × Value) → Nat → Prop
  | [], _ => True
  | (_, value) :: rest, depth => value.Fits depth ∧ FieldsFit rest depth

end

theorem skip_space_append {gap : List Char} (space : ∀ char ∈ gap, isSpace char = true)
    (chars : List Char) : skipSpace (gap ++ chars) = skipSpace chars :=
  List.dropWhile_append_of_pos space

theorem skip_space_cons {char : Char} (solid : isSpace char = false) (chars : List Char) :
    skipSpace (char :: chars) = char :: chars := by
  simp [skipSpace, solid]

/-- White space in front of a value is passed over. -/
theorem read_source_append {gap : List Char} (space : ∀ char ∈ gap, isSpace char = true)
    (fuel : Nat) (chars : List Char) : readSource fuel (gap ++ chars) = readSource fuel chars := by
  cases fuel with
  | zero => rfl
  | succ fuel => simp only [readSource, skip_space_append space]

theorem severed_gap {gap : List Char} (space : ∀ char ∈ gap, isSpace char = true)
    {mark : Char} (ends : mark.isDigit = false ∧ mark ≠ '.' ∧ mark ≠ 'e' ∧ mark ≠ 'E')
    (rest : List Char) : Severed (gap ++ mark :: rest) := by
  intro char first
  cases gap with
  | nil => exact Option.some.inj first ▸ ends
  | cons blank gap =>
      obtain rfl : blank = char := Option.some.inj first
      have blanks := space blank List.mem_cons_self
      simp only [isSpace, Bool.or_eq_true, decide_eq_true_eq] at blanks
      rcases blanks with ((rfl | rfl) | rfl) | rfl <;> decide

theorem severed_items (level : Nat) (items : List Value) (rest : List Char) :
    Severed (renderItems layout level items ++ rest) := by
  cases items with
  | nil =>
      rw [renderItems, List.append_assoc]
      exact severed_gap (layout.gap_space level) (by decide) rest
  | cons item items => exact fun char first => Option.some.inj first ▸ by decide

theorem severed_fields (level : Nat) (fields : List (String × Value)) (rest : List Char) :
    Severed (renderFields layout level fields ++ rest) := by
  cases fields with
  | nil =>
      rw [renderFields, List.append_assoc]
      exact severed_gap (layout.gap_space level) (by decide) rest
  | cons field fields => exact fun char first => Option.some.inj first ▸ by decide

/-- The text of a value starts with a character of its own. -/
theorem render_head {value : Value} {depth : Nat} (fits : value.Fits depth) (level : Nat) :
    ∃ char chars, render layout level value = char :: chars ∧ isSpace char = false ∧
      char ≠ ']' := by
  match value with
  | .null | .bool true | .bool false | .text _ | .list [] | .list (_ :: _) | .object []
  | .object (_ :: _) => exact ⟨_, _, rfl, by decide, by decide⟩
  | .number literal =>
    have sound : literal.Sound := fits
    obtain ⟨char, chars, printed, solid, start⟩ := print_literal_head sound
    exact ⟨char, chars, printed, solid, fun bracket => start (by simp [bracket])⟩

theorem read_text (fuel : Nat) (text : String) (rest : List Char) :
    readSource (fuel + 1) (printText text ++ rest) = some (.text (piecesOf text), rest) := by
  have read := read_pieces text.toList rest
  have printed : printText text ++ rest = '"' :: (text.toList.flatMap escape ++ '"' :: rest) := by
    simp [printText]
  rw [printed, readSource, skip_space_cons (by decide)]
  simp only [read, Option.bind_eq_bind, Option.bind_some]
  rfl

theorem read_number (fuel : Nat) {literal : Literal} (sound : literal.Sound) {rest : List Char}
    (severed : Severed rest) :
    readSource (fuel + 1) (printLiteral literal ++ rest) = some (.number literal, rest) := by
  have read := read_literal sound severed
  obtain ⟨char, chars, printed, solid, start⟩ := print_literal_head sound
  rw [printed, List.cons_append] at read ⊢
  rw [readSource, skip_space_cons solid]
  split
  case h_7 => rw [read]; rfl
  all_goals
    obtain ⟨rfl, -⟩ := List.cons.inj ‹_›
    exact absurd (by decide) start

theorem read_list {gap : List Char} (space : ∀ char ∈ gap, isSpace char = true) {char : Char}
    (solid : isSpace char = false) (start : char ≠ ']') (fuel : Nat) (chars : List Char) :
    readSource (fuel + 1) ('[' :: (gap ++ char :: chars)) =
      (readItems fuel (char :: chars)).map fun (items, rest) => (.list items, rest) := by
  rw [readSource, skip_space_cons (by decide)]
  simp only [skip_space_append space, skip_space_cons solid]
  split
  · exact absurd (List.cons.inj ‹_›).1 start
  · cases readItems fuel (char :: chars) <;> rfl

theorem read_object {gap : List Char} (space : ∀ char ∈ gap, isSpace char = true) (fuel : Nat)
    (chars : List Char) :
    readSource (fuel + 1) ('{' :: (gap ++ '"' :: chars)) =
      (readFields fuel ('"' :: chars)).map fun (fields, rest) => (.object fields, rest) := by
  rw [readSource, skip_space_cons (by decide)]
  simp only [skip_space_append space, skip_space_cons (show isSpace '"' = false by decide)]
  cases read : readFields fuel ('"' :: chars) <;> simp [read]

/-- The name of a field, and its value with what is left: more fields, or the end of them. -/
theorem read_field {gap : List Char} (space : ∀ char ∈ gap, isSpace char = true) (fuel : Nat)
    (name : String) {chars rest : List Char} {source : Source}
    (value : readSource fuel chars = some (source, rest)) (others : List Char) :
    (skipSpace rest = ',' :: others →
      readFields (fuel + 1) (gap ++ (printText name ++ ':' :: chars)) =
        (readFields fuel others).map fun (fields, rest) =>
          ((piecesOf name, source) :: fields, rest)) ∧
    (skipSpace rest = '}' :: others →
      readFields (fuel + 1) (gap ++ (printText name ++ ':' :: chars)) =
        some ([(piecesOf name, source)], others)) := by
  have read := read_pieces name.toList (':' :: chars)
  have printed : printText name ++ ':' :: chars =
      '"' :: (name.toList.flatMap escape ++ '"' :: ':' :: chars) := by
    simp [printText]
  rw [readFields, skip_space_append space, printed, skip_space_cons (by decide)]
  simp only [read, Option.bind_eq_bind, Option.bind_some, value,
    skip_space_cons (show isSpace ':' = false by decide)]
  constructor
  · intro comma
    simp only [comma]
    cases readFields fuel others <;> rfl
  · intro brace
    simp only [brace]
    rfl

mutual

theorem read_render (level : Nat) (value : Value) {depth fuel : Nat} {rest : List Char}
    (fits : value.Fits depth) (enough : 2 * (render layout level value).length ≤ fuel)
    (severed : Severed rest) :
    readSource fuel (render layout level value ++ rest) = some (value.source, rest) := by
  obtain ⟨fuel, rfl⟩ : ∃ less, fuel = less + 1 := by
    obtain ⟨char, chars, text, -⟩ := render_head layout fits level
    rw [text, List.length_cons] at enough
    exact ⟨fuel - 1, by omega⟩
  match value, depth with
  | .null, _ | .bool true, _ | .bool false, _ => rfl
  | .list [], _ | .object [], _ => rfl
  | .number literal, _ => exact read_number fuel fits severed
  | .text text, _ => exact read_text fuel text rest
  | .list (item :: items), depth + 1 =>
    simp only [render, List.length_cons, List.length_append] at enough
    obtain ⟨fuel, rfl⟩ : ∃ less, fuel = less + 1 := ⟨fuel - 1, by omega⟩
    have first : ∀ tail, Severed tail →
        readSource fuel (render layout (level + 1) item ++ tail) = some (item.source, tail) :=
      fun tail ends => read_render (level + 1) item fits.1 (by omega) ends
    have read := read_items level items rest fits.2 (by omega) first
    obtain ⟨char, chars, text, solid, start⟩ := render_head layout fits.1 (level + 1)
    simp only [render, List.cons_append, List.append_assoc]
    rw [text, List.cons_append] at read ⊢
    rw [read_list (layout.gap_space _) solid start, read]
    rfl
  | .object ((name, value) :: fields), depth + 1 =>
    simp only [render, List.length_cons, List.length_append] at enough
    obtain ⟨fuel, rfl⟩ : ∃ less, fuel = less + 1 := ⟨fuel - 1, by omega⟩
    have first : ∀ tail, Severed tail → readSource fuel (layout.afterColon ++
        render layout (level + 1) value ++ tail) = some (value.source, tail) := by
      intro tail ends
      rw [List.append_assoc, read_source_append layout.after_colon_space]
      exact read_render (level + 1) value fits.1 (by omega) ends
    have read := read_fields level fields [] rest name fits.2 (by omega) (by simp) first
    simp only [render, printText, List.cons_append, List.nil_append, List.append_assoc] at read ⊢
    rw [read_object (layout.gap_space _), read]
    rfl

/-- Goes on from an item that has been read. -/
theorem read_items (level : Nat) (items : List Value) {depth fuel : Nat} {chars : List Char}
    (rest : List Char) {source : Source} (fit : ItemsFit items depth)
    (enough : 2 * (renderItems layout level items).length ≤ fuel)
    (first : ∀ tail, Severed tail → readSource fuel (chars ++ tail) = some (source, tail)) :
    readItems (fuel + 1) (chars ++ (renderItems layout level items ++ rest)) =
      some (source :: sources items, rest) := by
  have read := first _ (severed_items layout level items rest)
  rw [readItems, read]
  match items with
  | [] =>
    simp only [renderItems, List.append_assoc, Option.bind_eq_bind, Option.bind_some,
      skip_space_append (layout.gap_space _)]
    rfl
  | item :: items =>
    simp only [renderItems, List.length_cons, List.length_append] at enough
    obtain ⟨fuel, rfl⟩ : ∃ less, fuel = less + 1 := ⟨fuel - 1, by omega⟩
    have next : ∀ tail, Severed tail → readSource fuel (layout.gap (level + 1) ++
        render layout (level + 1) item ++ tail) = some (item.source, tail) := by
      intro tail ends
      rw [List.append_assoc, read_source_append (layout.gap_space (level + 1))]
      exact read_render (level + 1) item fit.1 (by omega) ends
    have later := read_items level items rest fit.2 (by omega) next
    simp only [renderItems, List.append_assoc, List.cons_append, Option.bind_eq_bind,
      Option.bind_some, skip_space_cons (show isSpace ',' = false by decide)] at later ⊢
    rw [later]
    rfl

theorem read_fields (level : Nat) (fields : List (String × Value)) {depth fuel : Nat}
    (gap : List Char) {chars : List Char} (rest : List Char) {source : Source} (name : String)
    (fit : FieldsFit fields depth)
    (enough : 2 * (renderFields layout level fields).length ≤ fuel)
    (space : ∀ char ∈ gap, isSpace char = true)
    (first : ∀ tail, Severed tail → readSource fuel (chars ++ tail) = some (source, tail)) :
    readFields (fuel + 1) (gap ++ (printText name ++ ':' ::
        (chars ++ (renderFields layout level fields ++ rest)))) =
      some ((piecesOf name, source) :: fieldSources fields, rest) := by
  have read := first _ (severed_fields layout level fields rest)
  match fields with
  | [] =>
    refine (read_field space fuel name read rest).2 ?_
    simp only [renderFields, List.append_assoc, skip_space_append (layout.gap_space _)]
    rfl
  | (name', value) :: fields =>
    simp only [renderFields, List.length_cons, List.length_append] at enough
    obtain ⟨fuel, rfl⟩ : ∃ less, fuel = less + 1 := ⟨fuel - 1, by omega⟩
    have next : ∀ tail, Severed tail → readSource fuel (layout.afterColon ++
        render layout (level + 1) value ++ tail) = some (value.source, tail) := by
      intro tail ends
      rw [List.append_assoc, read_source_append layout.after_colon_space]
      exact read_render (level + 1) value fit.1 (by omega) ends
    have later := read_fields level fields _ rest name' fit.2 (by omega)
      (layout.gap_space (level + 1)) next
    have comma : skipSpace (renderFields layout level ((name', value) :: fields) ++ rest) =
        ',' :: (layout.gap (level + 1) ++ (printText name' ++ ':' :: (layout.afterColon ++
          render layout (level + 1) value ++ (renderFields layout level fields ++ rest)))) := by
      simp only [renderFields, List.append_assoc, List.cons_append,
        skip_space_cons (show isSpace ',' = false by decide)]
    rw [(read_field space (fuel + 1) name read _).1 comma, later]
    rfl

end

theorem source_of_render {value : Value} {depth : Nat} (fits : value.Fits depth) :
    Source.ofText (String.ofList (render layout 0 value)) = some value.source := by
  have read : readSource (2 * (render layout 0 value).length + 2) (render layout 0 value ++ []) =
      some (value.source, []) :=
    read_render layout 0 value fits (Nat.le_add_right _ 2) (by simp [Severed])
  rw [List.append_nil] at read
  simp only [Source.ofText, String.toList_ofList, read]
  rfl

/-! ## What is understood -/

mutual

theorem interpret_source (value : Value) {depth : Nat} (fits : value.Fits depth) :
    interpret depth value.source = some value := by
  match value, depth with
  | .null, _ | .bool _, _ => rfl
  | .number literal, _ =>
    have sound : literal.Sound := fits
    simp [Value.source, interpret, sound.range]
  | .text text, _ => simp [Value.source, interpret, resolve_text]
  | .list items, depth + 1 => simp [Value.source, interpret, interpret_sources items fits]
  | .object fields, depth + 1 => simp [Value.source, interpret, interpret_field_sources fields fits]

theorem interpret_sources (items : List Value) {depth : Nat} (fit : ItemsFit items depth) :
    interpretItems depth (sources items) = some items := by
  match items with
  | [] => rfl
  | item :: rest =>
    simp [sources, interpretItems, interpret_source item fit.1, interpret_sources rest fit.2]

theorem interpret_field_sources (fields : List (String × Value)) {depth : Nat}
    (fit : FieldsFit fields depth) : interpretFields depth (fieldSources fields) = some fields := by
  match fields with
  | [] => rfl
  | (name, value) :: rest =>
    simp [fieldSources, interpretFields, resolve_text, interpret_source value fit.1,
      interpret_field_sources rest fit.2]

end

theorem value_of_render {value : Value} (fits : value.Fits maximalDepth) :
    Value.ofText (String.ofList (render layout 0 value)) = some value := by
  rw [Value.ofText, source_of_render layout fits, Option.bind_some, interpret_source value fits]

namespace Value

theorem of_text_compact {value : Value} (fits : value.Fits maximalDepth) :
    ofText value.compact = some value := by
  rw [compact, print_eq_render 0]
  exact value_of_render _ fits

theorem of_text_indented {value : Value} (fits : value.Fits maximalDepth) :
    ofText value.indented = some value := by
  rw [indented, print_indented_eq_render 0]
  exact value_of_render _ fits

end Value

theorem items_fit_iff {items : List Value} {depth : Nat} :
    ItemsFit items depth ↔ ∀ item ∈ items, item.Fits depth := by
  induction items with
  | nil => simp [ItemsFit]
  | cons item rest induction => simp [ItemsFit, induction]

theorem fields_fit_iff {fields : List (String × Value)} {depth : Nat} :
    FieldsFit fields depth ↔ ∀ field ∈ fields, field.2.Fits depth := by
  induction fields with
  | nil => simp [FieldsFit]
  | cons field rest induction => simp [FieldsFit, induction]

theorem fields_fit_append {fields later : List (String × Value)} {depth : Nat} :
    FieldsFit (fields ++ later) depth ↔ FieldsFit fields depth ∧ FieldsFit later depth := by
  simp only [fields_fit_iff, List.forall_mem_append]

/-! ## Records -/

/-- What was written item by item is read back item by item. -/
theorem mapM_read_back {α β : Type} {read : β → Option α} {write : α → β} {items : List α}
    (back : ∀ item ∈ items, read (write item) = some item) :
    (items.map write).mapM read = some items := by
  induction items with
  | nil => rfl
  | cons item rest induction =>
      rw [List.forall_mem_cons] at back
      simp [back.1, induction back.2]

def namedSource (field : String × Value) : String × Source :=
  (field.1, field.2.source)

theorem field_sources_eq_map (fields : List (String × Value)) :
    fieldSources fields = (fields.map namedSource).map fun (name, source) =>
      (piecesOf name, source) := by
  induction fields with
  | nil => rfl
  | cons field rest induction =>
      rw [fieldSources, induction]
      rfl

theorem resolve_field_sources (fields : List (String × Value)) :
    (fieldSources fields).mapM (fun (name, source) => (resolveText name).map (·, source)) =
      some (fields.map namedSource) := by
  rw [field_sources_eq_map]
  exact mapM_read_back fun field _ => by simp [resolve_text]

/-- A record whose fields are known and named once is read straight from its text. -/
theorem record_of_text_compact {names : List String} {fields : List (String × Value)}
    (fit : FieldsFit fields maximalDepth) (known : ∀ field ∈ fields, field.1 ∈ names)
    (distinct : (fields.map (·.1)).Nodup) :
    recordOfText names (Value.object fields).compact = some (.object fields) := by
  have fits : (Value.object fields).Fits (maximalDepth + 1) := fit
  have kept : (fields.map namedSource).filter (fun (name, _) => names.contains name) =
      fields.map namedSource := by
    rw [List.filter_eq_self, List.forall_mem_map]
    exact fun field held => List.contains_iff_mem.2 (known field held)
  have once : ((fields.map namedSource).map (·.1)).Pairwise (· ≠ ·) := by
    rwa [List.map_map]
  have values : (fields.map namedSource).mapM
      (fun (name, source) => (interpret maximalDepth source).map (name, ·)) = some fields := by
    refine mapM_read_back fun field held => ?_
    simp only [namedSource, interpret_source field.2 (fields_fit_iff.1 fit field held)]
    rfl
  rw [recordOfText, Value.compact, print_eq_render 0, source_of_render _ fits]
  simp only [Option.bind_some, Value.source, recordOf, resolve_field_sources, Option.bind_eq_bind,
    kept, values]
  rw [if_pos once]

/-! ## Texts on one line -/

def Inline (chars : List Char) : Prop :=
  ∀ char ∈ chars, 0x20 ≤ char.toNat

@[simp]
theorem inline_append {chars others : List Char} :
    Inline (chars ++ others) ↔ Inline chars ∧ Inline others :=
  List.forall_mem_append

@[simp]
theorem inline_cons {char : Char} {chars : List Char} :
    Inline (char :: chars) ↔ 0x20 ≤ char.toNat ∧ Inline chars :=
  List.forall_mem_cons

@[simp]
theorem inline_nil : Inline [] :=
  List.forall_mem_nil _

theorem inline_digits {digits : List Char} (all : ∀ char ∈ digits, char.isDigit = true) :
    Inline digits := by
  intro char held
  have digit := all char held
  simp only [Char.isDigit, Bool.and_eq_true, decide_eq_true_eq] at digit
  exact Nat.le_trans (by decide) digit.1

theorem inline_escape (char : Char) : Inline (escape char) := by
  unfold escape
  split
  iterate 7 simp
  split
  · rename_i control
    rw [padded_hex_control char.toNat control]
    have digit : ∀ digit < 16, 0x20 ≤ (Nat.digitChar digit).toNat := by decide
    simp [digit _ (show char.toNat / 16 < 16 by omega), digit _ (Nat.mod_lt char.toNat _)]
  · simp; omega

theorem inline_text (text : String) : Inline (printText text) := by
  simp only [printText, List.cons_append, inline_cons, inline_append, inline_nil]
  refine ⟨by decide, fun char held => ?_, by decide, trivial⟩
  obtain ⟨own, -, held⟩ := List.mem_flatMap.1 held
  exact inline_escape own char held

theorem inline_literal {literal : Literal} (sound : literal.Sound) :
    Inline (printLiteral literal) := by
  simp only [printLiteral, inline_append]
  refine ⟨⟨⟨?_, inline_digits sound.whole⟩, ?_⟩, ?_⟩
  · split <;> simp
  · split
    · simp
    · simp [inline_digits sound.fraction]
  · cases literal.exponent with
    | none => exact inline_nil
    | some exponent => cases exponent <;> simp [printExponent, inline_digits digits_decimal]

mutual

theorem inline_print (value : Value) {depth : Nat} (fits : value.Fits depth) :
    Inline (print value) := by
  match value, depth with
  | .null, _ | .bool true, _ | .bool false, _ | .list [], _ | .object [], _ =>
    simp [print]
  | .number literal, _ => exact inline_literal fits
  | .text text, _ => exact inline_text text
  | .list (item :: rest), depth + 1 =>
    simp [print, inline_print item fits.1, inline_items rest fits.2]
  | .object ((name, value) :: rest), depth + 1 =>
    simp [print, inline_text, inline_print value fits.1, inline_fields rest fits.2]

theorem inline_items (items : List Value) {depth : Nat} (fit : ItemsFit items depth) :
    Inline (printItems items) := by
  match items with
  | [] => simp [printItems]
  | item :: rest => simp [printItems, inline_print item fit.1, inline_items rest fit.2]

theorem inline_fields (fields : List (String × Value)) {depth : Nat}
    (fit : FieldsFit fields depth) : Inline (printFields fields) := by
  match fields with
  | [] => simp [printFields]
  | (name, value) :: rest =>
    simp [printFields, inline_text, inline_print value fit.1, inline_fields rest fit.2]

end

/-- The text of an object is set off by its braces. -/
theorem print_object_ends (fields : List (String × Value)) :
    ∃ inner, print (.object fields) = '{' :: (inner ++ ['}']) := by
  have closed : ∀ fields, ∃ inner, printFields fields = inner ++ ['}'] := by
    intro fields
    induction fields with
    | nil => exact ⟨[], rfl⟩
    | cons field rest induction =>
        obtain ⟨inner, ends⟩ := induction
        exact ⟨_, by rw [printFields, ends, ← List.append_assoc]⟩
  cases fields with
  | nil => exact ⟨[], rfl⟩
  | cons field rest =>
      obtain ⟨inner, ends⟩ := closed rest
      exact ⟨_, by rw [print, ends, List.cons_append, List.cons_append, ← List.append_assoc]⟩

end OptOut.Json

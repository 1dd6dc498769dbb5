/-!
# Parsing in pieces

A parser takes one item after the other from the front of its input, until the input is too
short for a further item or breaks its rules. More input never changes what it has found.
A reader that keeps the unfinished input between its calls and parses after each piece finds
the items of the whole input, unless a call that breaks drops items it has found itself.
-/

section

variable {Symbol Error Item State : Type}

/-- What a parser finds at the front of its input. -/
inductive Front (Symbol Error Item : Type)
  | starved
  | broken (error : Error) (rest : List Symbol)
  | item (value : Item) (rest : List Symbol)

/-- A parser of single items that more input does not mislead. -/
structure ItemParser (Symbol Error Item : Type) where
  front : List Symbol → Front Symbol Error Item
  front_nil : front [] = .starved
  shrinks : ∀ {input value rest}, front input = .item value rest → rest.length < input.length
  item_append : ∀ {input value rest}, front input = .item value rest →
    ∀ more, front (input ++ more) = .item value (rest ++ more)
  broken_append : ∀ {input error rest}, front input = .broken error rest →
    ∀ more, front (input ++ more) = .broken error (rest ++ more)

/-- The items of an input, what broke the parser if anything did, and what it left. -/
structure Parsed (Symbol Error Item : Type) where
  items : List Item
  stop : Option Error
  rest : List Symbol

/-- Put items before those that are parsed. -/
def Parsed.prepend (items : List Item) (parsed : Parsed Symbol Error Item) :
    Parsed Symbol Error Item :=
  { parsed with items := items ++ parsed.items }

/-- The result of one call: a call that breaks returns none of its items. -/
def Parsed.outcome (parsed : Parsed Symbol Error Item) : Except Error (List Item) :=
  match parsed.stop with
  | some error => .error error
  | none => .ok parsed.items

namespace ItemParser

variable (parser : ItemParser Symbol Error Item) {input rest : List Symbol} {error : Error}

/-- Items from the front, as long as there are any. -/
def parse (input : List Symbol) : Parsed Symbol Error Item :=
  match found : parser.front input with
  | .starved => ⟨[], none, input⟩
  | .broken error rest => ⟨[], some error, rest⟩
  | .item value rest =>
      have := parser.shrinks found
      (parse rest).prepend [value]
termination_by input.length

/-- Follow the parser from item to item. -/
theorem parse_induction {motive : List Symbol → Prop}
    (starved : ∀ input, parser.front input = .starved → motive input)
    (broken : ∀ input error rest, parser.front input = .broken error rest → motive input)
    (item : ∀ input value rest, parser.front input = .item value rest → motive rest → motive input)
    (input : List Symbol) : motive input := by
  match found : parser.front input with
  | .starved => exact starved input found
  | .broken error rest => exact broken input error rest found
  | .item value rest =>
      have := parser.shrinks found
      exact item input value rest found (parse_induction starved broken item rest)
termination_by input.length

variable {parser}

theorem parse_starved (found : parser.front input = .starved) :
    parser.parse input = ⟨[], none, input⟩ := by
  rw [parse]
  split <;> simp_all

theorem parse_broken (found : parser.front input = .broken error rest) :
    parser.parse input = ⟨[], some error, rest⟩ := by
  rw [parse]
  split <;> simp_all

theorem parse_item {value : Item} (found : parser.front input = .item value rest) :
    parser.parse input = (parser.parse rest).prepend [value] := by
  rw [parse]
  split <;> simp_all

theorem front_rest_of_stop_eq_none (whole : (parser.parse input).stop = none) :
    parser.front (parser.parse input).rest = .starved := by
  induction input using parser.parse_induction with
  | starved input found =>
      rw [parse_starved found]
      exact found
  | broken input error rest found =>
      rw [parse_broken found] at whole
      cases whole
  | item input value rest found ih =>
      rw [parse_item found] at whole ⊢
      exact ih whole

/-- An unbroken parser goes on from what it left. -/
theorem parse_append_of_stop_eq_none (whole : (parser.parse input).stop = none)
    (more : List Symbol) :
    parser.parse (input ++ more) =
      (parser.parse ((parser.parse input).rest ++ more)).prepend (parser.parse input).items := by
  induction input using parser.parse_induction with
  | starved input found =>
      rw [parse_starved found]
      rfl
  | broken input error rest found =>
      rw [parse_broken found] at whole
      cases whole
  | item input value rest found ih =>
      rw [parse_item found] at whole ⊢
      rw [parse_item (parser.item_append found more), ih whole]
      rfl

/-- A broken parser stays broken. -/
theorem parse_append_of_stop_eq_some (broken : (parser.parse input).stop = some error)
    (more : List Symbol) :
    parser.parse (input ++ more) =
      ⟨(parser.parse input).items, some error, (parser.parse input).rest ++ more⟩ := by
  induction input using parser.parse_induction with
  | starved input found =>
      rw [parse_starved found] at broken
      cases broken
  | broken input error rest found =>
      rw [parse_broken found] at broken ⊢
      cases broken
      exact parse_broken (parser.broken_append found more)
  | item input value rest found ih =>
      rw [parse_item found] at broken ⊢
      rw [parse_item (parser.item_append found more), ih broken]
      rfl

end ItemParser

/-- What the calls of a reader returned until the first one that raised, and its last state. -/
structure Fed (Error Item State : Type) where
  returned : List Item
  raised : Option Error
  state : State

/-- Call a reader with one piece after the other until it raises. -/
def feedAll (feed : State → List Symbol → Except Error (List Item) × State) (state : State) :
    List (List Symbol) → Fed Error Item State
  | [] => ⟨[], none, state⟩
  | piece :: rest =>
      match feed state piece with
      | (.error error, state) => ⟨[], some error, state⟩
      | (.ok items, state) =>
          let later := feedAll feed state rest
          { later with returned := items ++ later.returned }

/-- A reader that parses what it has kept and a further piece. -/
structure ItemParser.Feeds (parser : ItemParser Symbol Error Item)
    (feed : State → List Symbol → Except Error (List Item) × State)
    (buffer : State → List Symbol) : Prop where
  outcome : ∀ state piece,
    (feed state piece).1 = (parser.parse (buffer state ++ piece)).outcome
  buffer : ∀ state piece,
    buffer (feed state piece).2 = (parser.parse (buffer state ++ piece)).rest

namespace ItemParser.Feeds

variable {parser : ItemParser Symbol Error Item}
  {feed : State → List Symbol → Except Error (List Item) × State} {buffer : State → List Symbol}
  (feeds : parser.Feeds feed buffer) {state : State}

include feeds

theorem feedAll_cons_of_stop_eq_none {piece : List Symbol}
    (whole : (parser.parse (buffer state ++ piece)).stop = none) (rest : List (List Symbol)) :
    feedAll feed state (piece :: rest) =
      { feedAll feed (feed state piece).2 rest with
        returned := (parser.parse (buffer state ++ piece)).items ++
          (feedAll feed (feed state piece).2 rest).returned } := by
  have result := feeds.outcome state piece
  unfold Parsed.outcome at result
  rw [whole] at result
  rw [feedAll]
  rcases answer : feed state piece with ⟨outcome, next⟩
  rw [answer] at result
  cases result
  rfl

theorem feedAll_cons_of_stop_eq_some {state : State} {piece : List Symbol} {error : Error}
    (broken : (parser.parse (buffer state ++ piece)).stop = some error)
    (rest : List (List Symbol)) :
    feedAll feed state (piece :: rest) = ⟨[], some error, (feed state piece).2⟩ := by
  have result := feeds.outcome state piece
  unfold Parsed.outcome at result
  rw [broken] at result
  rw [feedAll]
  rcases answer : feed state piece with ⟨outcome, next⟩
  rw [answer] at result
  cases result
  rfl

/-- The pieces of an input that the parser accepts give its items, in any pieces. -/
theorem feedAll_of_stop_eq_none {state : State} (starved : parser.front (buffer state) = .starved)
    {pieces : List (List Symbol)}
    (whole : (parser.parse (buffer state ++ pieces.flatten)).stop = none) :
    (feedAll feed state pieces).returned =
        (parser.parse (buffer state ++ pieces.flatten)).items ∧
      (feedAll feed state pieces).raised = none ∧
      buffer (feedAll feed state pieces).state =
        (parser.parse (buffer state ++ pieces.flatten)).rest := by
  induction pieces generalizing state with
  | nil =>
      rw [List.flatten_nil, List.append_nil, parse_starved starved]
      exact ⟨rfl, rfl, rfl⟩
  | cons piece rest ih =>
      rw [List.flatten_cons, ← List.append_assoc] at whole ⊢
      cases stop : (parser.parse (buffer state ++ piece)).stop with
      | some error =>
          rw [parse_append_of_stop_eq_some stop] at whole
          cases whole
      | none =>
          have next := feeds.buffer state piece
          rw [parse_append_of_stop_eq_none stop, ← next] at whole ⊢
          rw [feeds.feedAll_cons_of_stop_eq_none stop]
          obtain ⟨returned, raised, kept⟩ :=
            ih (next ▸ front_rest_of_stop_eq_none stop) whole
          exact ⟨congrArg (_ ++ ·) returned, raised, kept⟩

/-- The calls return the items of the whole input exactly if some pieces at its front have all
the items and do not break the parser. -/
theorem feedAll_returned_iff (starved : parser.front (buffer state) = .starved)
    (pieces : List (List Symbol)) :
    (feedAll feed state pieces).returned =
        (parser.parse (buffer state ++ pieces.flatten)).items ↔
      ∃ before after, pieces = before ++ after ∧
        (parser.parse (buffer state ++ before.flatten)).items.length =
          (parser.parse (buffer state ++ pieces.flatten)).items.length ∧
        (parser.parse (buffer state ++ before.flatten)).stop = none := by
  induction pieces generalizing state with
  | nil =>
      rw [List.flatten_nil, List.append_nil, parse_starved starved]
      refine ⟨fun _ => ⟨[], [], rfl, ?_⟩, fun _ => rfl⟩
      rw [List.flatten_nil, List.append_nil, parse_starved starved]
      exact ⟨rfl, rfl⟩
  | cons piece rest ih =>
      have unread : (parser.parse (buffer state ++ ([] : List (List Symbol)).flatten)) =
          ⟨[], none, buffer state⟩ := by
        rw [List.flatten_nil, List.append_nil, parse_starved starved]
      rw [List.flatten_cons, ← List.append_assoc]
      cases stop : (parser.parse (buffer state ++ piece)).stop with
      | some error =>
          rw [parse_append_of_stop_eq_some stop, feeds.feedAll_cons_of_stop_eq_some stop]
          constructor
          · intro none
            refine ⟨[], piece :: rest, rfl, ?_⟩
            rw [unread, ← show [] = (parser.parse (buffer state ++ piece)).items from none]
            exact ⟨rfl, rfl⟩
          · rintro ⟨_ | ⟨first, before⟩, after, same, count, whole⟩
            · rw [unread] at count
              exact (List.eq_nil_of_length_eq_zero count.symm).symm
            · cases (List.cons.inj same).1
              rw [List.flatten_cons, ← List.append_assoc, parse_append_of_stop_eq_some stop]
                at whole
              cases whole
      | none =>
          have next := feeds.buffer state piece
          have left : parser.front (buffer (feed state piece).2) = .starved :=
            next ▸ front_rest_of_stop_eq_none stop
          rw [parse_append_of_stop_eq_none stop, ← next, feeds.feedAll_cons_of_stop_eq_none stop]
          refine (List.append_right_inj _).trans ((ih left).trans ?_)
          constructor
          · rintro ⟨before, after, rfl, count, whole⟩
            refine ⟨piece :: before, after, rfl, ?_⟩
            rw [List.flatten_cons, ← List.append_assoc, parse_append_of_stop_eq_none stop, ← next]
            refine ⟨?_, whole⟩
            simp only [Parsed.prepend, List.length_append, count]
          · rintro ⟨_ | ⟨first, before⟩, after, same, count, whole⟩
            · refine ⟨[], rest, rfl, ?_⟩
              rw [unread] at count
              simp only [Parsed.prepend, List.length_append, List.length_nil] at count
              rw [List.flatten_nil, List.append_nil, parse_starved left]
              exact ⟨(Nat.add_eq_zero_iff.mp count.symm).2.symm, rfl⟩
            · obtain ⟨rfl, rfl⟩ := List.cons.inj same
              rw [List.flatten_cons, ← List.append_assoc, parse_append_of_stop_eq_none stop,
                ← next] at count whole
              simp only [Parsed.prepend, List.length_append] at count
              exact ⟨before, after, rfl, Nat.add_left_cancel count, whole⟩

end ItemParser.Feeds

end

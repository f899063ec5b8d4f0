/-
JSON values are read back from their texts. Both the compact and the indented
text of a value spell its tokens (`spells_compact`, `spells_indented`), the
one without blanks and the other with the lines and depths between them; the
tokens are read back from the text, and the value from its tokens
(`foldlM_tokens`). Of numbers this holds for unsigned integers: how another
one is spelled is not the writer's choice.

# From tokens to values

While a value is read, what stands on the stack does not change, and when its
last token has come it is handed to the innermost bracket. The lemmas for
items and members say the same of the rest of an open bracket, up to the one
that closes it.
-/
import ChipFabric.Json.Reader
import ChipFabric.Json.Writer
import ChipFabric.Proofs.Json.Spelling

namespace ChipFabric.Json

-- ============================================================= values

mutual

/-- The value holds no number but unsigned integers. -/
def Plain : Json → Prop
  | .numeral _ => False
  | .array items => PlainItems items
  | .object members => PlainMembers members
  | .null => True
  | .bool _ => True
  | .natural _ => True
  | .string _ => True

def PlainItems : List Json → Prop
  | [] => True
  | v :: rest => Plain v ∧ PlainItems rest

def PlainMembers : List (String × Json) → Prop
  | [] => True
  | (_, v) :: rest => Plain v ∧ PlainMembers rest

end

-- ============================================================ reading

/-- No value starts with the bracket that closes an array. -/
theorem exists_tokens_eq_cons (v : Json) :
    ∃ t ts, v.tokens = t :: ts ∧ t ≠ .mark .closeArray := by
  cases v <;> exact ⟨_, _, rfl, nofun⟩

theorem exists_itemTokens_eq_append (v : Json) (items : List Json) :
    ∃ ts, itemTokens (v :: items) = v.tokens ++ ts := by
  cases items with
  | nil => exact ⟨[], (List.append_nil _).symm⟩
  | cons w items => exact ⟨_, rfl⟩

/-- An item that may not be there is read like one that has to come. -/
theorem foldlM_firstItem (v : Json) (items : List Json) (stack : List Frame)
    (rest : List Token) :
    (itemTokens (v :: items) ++ rest).foldlM Reading.step (.firstItem stack) =
      (itemTokens (v :: items) ++ rest).foldlM Reading.step
        (.value (.array [] :: stack)) := by
  obtain ⟨others, hitems⟩ := exists_itemTokens_eq_append v items
  obtain ⟨t, ts, htokens, hne⟩ := exists_tokens_eq_cons v
  have hstep : Reading.step (.firstItem stack) t =
      Reading.step (.value (.array [] :: stack)) t := by
    cases t with
    | leaf v => rfl
    | mark m =>
      cases m with
      | closeArray => exact absurd rfl hne
      | _ => rfl
  rw [hitems, htokens, List.cons_append, List.cons_append, List.foldlM_cons,
    List.foldlM_cons, hstep]

/-- A name that may not be there is read like one that has to come. -/
theorem foldlM_firstName (member : String × Json)
    (members : List (String × Json)) (stack : List Frame) (rest : List Token) :
    (memberTokens (member :: members) ++ rest).foldlM Reading.step
      (.firstName stack) =
      (memberTokens (member :: members) ++ rest).foldlM Reading.step
        (.nextName [] stack) := by
  cases members <;> rfl

mutual

/-- A value that has to come is read from its tokens. -/
theorem foldlM_tokens (v : Json) (stack : List Frame) (rest : List Token) :
    (v.tokens ++ rest).foldlM Reading.step (.value stack) =
      rest.foldlM Reading.step (.finish v stack) :=
  match v with
  | .null => rfl
  | .bool _ => rfl
  | .natural _ => rfl
  | .numeral _ => rfl
  | .string _ => rfl
  | .array [] => rfl
  | .array (v :: items) => by
    show (itemTokens (v :: items) ++ [Token.mark .closeArray] ++ rest).foldlM
      Reading.step (.firstItem stack) = _
    rw [List.append_assoc, foldlM_firstItem]
    exact foldlM_itemTokens (v :: items) (List.cons_ne_nil _ _) [] stack rest
  | .object [] => rfl
  | .object (member :: members) => by
    show (memberTokens (member :: members) ++ [Token.mark .closeObject]
      ++ rest).foldlM Reading.step (.firstName stack) = _
    rw [List.append_assoc, foldlM_firstName]
    exact foldlM_memberTokens (member :: members) (List.cons_ne_nil _ _) []
      stack rest

/-- The rest of an open array is read from the tokens of its items. -/
theorem foldlM_itemTokens (items : List Json) (hitems : items ≠ [])
    (before : List Json) (stack : List Frame) (rest : List Token) :
    (itemTokens items ++ .mark .closeArray :: rest).foldlM Reading.step
        (.value (.array before :: stack)) =
      rest.foldlM Reading.step
        (.finish (.array (before.reverse ++ items)) stack) :=
  match items with
  | [] => absurd rfl hitems
  | [v] => by
    show (v.tokens ++ .mark .closeArray :: rest).foldlM Reading.step _ = _
    rw [foldlM_tokens v]
    show rest.foldlM Reading.step
      (.finish (.array (v :: before).reverse) stack) = _
    rw [List.reverse_cons]
  | v :: w :: items => by
    have htokens : itemTokens (v :: w :: items) =
        v.tokens ++ Token.mark .comma :: itemTokens (w :: items) := rfl
    rw [htokens, List.append_assoc, foldlM_tokens v]
    show (itemTokens (w :: items) ++ .mark .closeArray :: rest).foldlM
      Reading.step (.value (.array (v :: before) :: stack)) = _
    rw [foldlM_itemTokens (w :: items) (List.cons_ne_nil _ _),
      List.reverse_cons, List.append_assoc]
    rfl

/-- The rest of an open object is read from the tokens of its members. -/
theorem foldlM_memberTokens (members : List (String × Json))
    (hmembers : members ≠ []) (before : List (String × Json))
    (stack : List Frame) (rest : List Token) :
    (memberTokens members ++ .mark .closeObject :: rest).foldlM Reading.step
        (.nextName before stack) =
      rest.foldlM Reading.step
        (.finish (.object (before.reverse ++ members)) stack) :=
  match members with
  | [] => absurd rfl hmembers
  | [(name, v)] => by
    show (v.tokens ++ .mark .closeObject :: rest).foldlM Reading.step
      (.value (.object before name :: stack)) = _
    rw [foldlM_tokens v]
    show rest.foldlM Reading.step
      (.finish (.object ((name, v) :: before).reverse) stack) = _
    rw [List.reverse_cons]
  | (name, v) :: next :: members => by
    have htokens : memberTokens ((name, v) :: next :: members) =
        Token.leaf (.string name) :: Token.mark .colon :: (v.tokens
          ++ Token.mark .comma :: memberTokens (next :: members)) := rfl
    rw [htokens, List.cons_append, List.cons_append, List.append_assoc]
    show (v.tokens ++ _).foldlM Reading.step
      (.value (.object before name :: stack)) = _
    rw [foldlM_tokens v]
    show (memberTokens (next :: members) ++ .mark .closeObject :: rest).foldlM
      Reading.step (.nextName ((name, v) :: before) stack) = _
    rw [foldlM_memberTokens (next :: members) (List.cons_ne_nil _ _),
      List.reverse_cons, List.append_assoc]
    rfl

end

/-- A value is read from its tokens. -/
theorem ofTokens?_tokens (v : Json) : ofTokens? v.tokens = some v := by
  have h := foldlM_tokens v [] []
  rw [List.append_nil] at h
  rw [ofTokens?, h]
  rfl

-- =========================================================== spelling

theorem spells_leafToken {v : Json} (hleaf : Leaf v) {rest : List Char}
    {ts : List Token} (hstop : Stops rest) (hrest : Spells rest ts) :
    Spells ([Token.leaf v].flatMap Token.text ++ rest) ([.leaf v] ++ ts) := by
  rw [List.flatMap_singleton]
  exact .leaf hleaf hstop hrest

theorem stops_newline (depth : Nat) (rest : List Char) :
    Stops (newline depth ++ rest) := by
  intro c hc
  obtain rfl := Option.some.inj hc
  decide

/-- The start of a line is blank. -/
theorem spells_newline (depth : Nat) {rest : List Char} {ts : List Token}
    (hrest : Spells rest ts) :
    Spells (newline depth ++ rest) ts := by
  apply Spells.blank (by decide)
  induction 2 * depth with
  | zero => exact hrest
  | succ n ih => exact .blank (by decide) ih

mutual

/-- The compact text of a value spells its tokens. -/
theorem spells_compact (v : Json) (hplain : v.Plain) {rest : List Char}
    {ts : List Token} (hstop : Stops rest) (hrest : Spells rest ts) :
    Spells (v.tokens.flatMap Token.text ++ rest) (v.tokens ++ ts) :=
  match v with
  | .null => spells_leafToken .null hstop hrest
  | .bool b => spells_leafToken (.bool b) hstop hrest
  | .natural n => spells_leafToken (.natural n) hstop hrest
  | .string s => spells_leafToken (.string s) hstop hrest
  | .numeral _ => absurd hplain id
  | .array items => by
    have hclose :=
      spells_compactItems items hplain (stops_mark .closeArray rest)
      (.mark .closeArray hrest)
    have hopen := Spells.mark .openArray hclose
    simpa [tokens, Token.text] using hopen
  | .object members => by
    have hclose := spells_compactMembers members hplain
      (stops_mark .closeObject rest) (.mark .closeObject hrest)
    have hopen := Spells.mark .openObject hclose
    simpa [tokens, Token.text] using hopen

theorem spells_compactItems (items : List Json) (hplain : PlainItems items)
    {rest : List Char} {ts : List Token} (hstop : Stops rest)
    (hrest : Spells rest ts) :
    Spells ((itemTokens items).flatMap Token.text ++ rest)
      (itemTokens items ++ ts) :=
  match items with
  | [] => hrest
  | [v] => spells_compact v hplain.1 hstop hrest
  | v :: w :: items => by
    have hothers := spells_compactItems (w :: items) hplain.2 hstop hrest
    have hall := spells_compact v hplain.1 (stops_mark .comma _)
      (.mark .comma hothers)
    simpa [itemTokens, Token.text] using hall

theorem spells_compactMembers (members : List (String × Json))
    (hplain : PlainMembers members) {rest : List Char} {ts : List Token}
    (hstop : Stops rest) (hrest : Spells rest ts) :
    Spells ((memberTokens members).flatMap Token.text ++ rest)
      (memberTokens members ++ ts) :=
  match members with
  | [] => hrest
  | [(name, v)] => by
    have hvalue := spells_compact v hplain.1 hstop hrest
    have hall := spells_leafToken (.string name) (stops_mark .colon _)
      (.mark .colon hvalue)
    simpa [memberTokens, Token.text] using hall
  | (name, v) :: next :: members => by
    have hothers := spells_compactMembers (next :: members)
      hplain.2 hstop hrest
    have hvalue := spells_compact v hplain.1 (stops_mark .comma _)
      (.mark .comma hothers)
    have hall := spells_leafToken (.string name) (stops_mark .colon _)
      (.mark .colon hvalue)
    simpa [memberTokens, Token.text] using hall

end

mutual

/-- The indented text of a value spells its tokens, at every depth. -/
theorem spells_indentedAt (depth : Nat) (v : Json) (hplain : v.Plain)
    {rest : List Char} {ts : List Token} (hstop : Stops rest)
    (hrest : Spells rest ts) :
    Spells (indentedAt depth v ++ rest) (v.tokens ++ ts) :=
  match v with
  | .null => .leaf .null hstop hrest
  | .bool b => .leaf (.bool b) hstop hrest
  | .natural n => .leaf (.natural n) hstop hrest
  | .string s => .leaf (.string s) hstop hrest
  | .numeral _ => absurd hplain id
  | .array [] => .mark .openArray (.mark .closeArray hrest)
  | .array (v :: items) => by
    have hclose := spells_newline depth (.mark .closeArray hrest)
    have hitems := spells_itemLines (depth + 1) (v :: items) hplain
      (stops_newline depth _) hclose
    have hopen := Spells.mark .openArray hitems
    simpa [indentedAt, tokens, Mark.char] using hopen
  | .object [] => .mark .openObject (.mark .closeObject hrest)
  | .object (member :: members) => by
    have hclose := spells_newline depth (.mark .closeObject hrest)
    have hmembers := spells_memberLines (depth + 1) (member :: members) hplain
      (stops_newline depth _) hclose
    have hopen := Spells.mark .openObject hmembers
    simpa [indentedAt, tokens, Mark.char] using hopen

theorem spells_itemLines (depth : Nat) (items : List Json)
    (hplain : PlainItems items) {rest : List Char} {ts : List Token}
    (hstop : Stops rest) (hrest : Spells rest ts) :
    Spells (itemLines depth items ++ rest) (itemTokens items ++ ts) :=
  match items with
  | [] => hrest
  | [v] => by
    have hall :=
      spells_newline depth (spells_indentedAt depth v hplain.1 hstop hrest)
    simpa [itemLines, itemTokens] using hall
  | v :: w :: items => by
    have hothers := spells_itemLines depth (w :: items) hplain.2 hstop hrest
    have hvalue := spells_indentedAt depth v hplain.1 (stops_mark .comma _)
      (.mark .comma hothers)
    have hall := spells_newline depth hvalue
    simpa [itemLines, itemTokens, Mark.char] using hall

theorem spells_memberLines (depth : Nat) (members : List (String × Json))
    (hplain : PlainMembers members) {rest : List Char} {ts : List Token}
    (hstop : Stops rest) (hrest : Spells rest ts) :
    Spells (memberLines depth members ++ rest) (memberTokens members ++ ts) :=
  match members with
  | [] => hrest
  | [(name, v)] => by
    have hvalue :=
      Spells.blank (c := ' ') rfl
        (spells_indentedAt depth v hplain.1 hstop hrest)
    have hname := Spells.leaf (.string name) (stops_mark .colon _)
      (.mark .colon hvalue)
    have hall := spells_newline depth hname
    simpa [memberLines, memberTokens, leafText, Mark.char] using hall
  | (name, v) :: next :: members => by
    have hothers := spells_memberLines depth (next :: members)
      hplain.2 hstop hrest
    have hvalue := Spells.blank (c := ' ') rfl
      (spells_indentedAt depth v hplain.1 (stops_mark .comma _)
        (.mark .comma hothers))
    have hname := Spells.leaf (.string name) (stops_mark .colon _)
      (.mark .colon hvalue)
    have hall := spells_newline depth hname
    simpa [memberLines, memberTokens, leafText, Mark.char] using hall

end

-- ============================================================= texts

/-- A value is read from any text that spells its tokens. -/
theorem parse?_of_spells {v : Json} {text : List Char}
    (h : Spells text v.tokens) : parse? (String.ofList text) = some v := by
  rw [parse?, String.toList_ofList, h.scan?]
  exact ofTokens?_tokens v

/-- A value is read back from its compact text. -/
theorem parse?_compact {v : Json} (hplain : v.Plain) :
    parse? v.compact = some v := by
  have h := spells_compact v hplain stops_nil .nil
  rw [List.append_nil, List.append_nil] at h
  exact parse?_of_spells h

/-- A value is read back from its indented text. -/
theorem parse?_indented {v : Json} (hplain : v.Plain) :
    parse? v.indented = some v := by
  have h := spells_indentedAt 0 v hplain stops_nil .nil
  rw [List.append_nil, List.append_nil] at h
  exact parse?_of_spells h

end ChipFabric.Json

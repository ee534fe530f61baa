import ProviderCoverage.Yaml.Scalar

/-! YAML nodes and how they are read from text. Aliases are not supported, and anchors and tags are
passed over.

The readers take fuel, which every call to another reader uses up. A call either takes a character
or goes one of few steps from an outer reader to an inner one, so fuel of several times the length
of the text never runs out. -/

namespace ProviderCoverage.Yaml

inductive Node where
  /-- A plain scalar can stand for something other than its text. -/
  | scalar (isPlain : Bool) (text : List Char)
  | sequence (items : List Node)
  | mapping (entries : List (Node × Node))

/-- What is left out counts as a plain scalar without text. -/
def Node.empty : Node :=
  .scalar true []

/-- A node as read, with the place after it. -/
structure Reading where
  node : Node
  after : Cursor
  multiline : Bool

/-- An anchor or tag at the front: what follows it. -/
def property? (c : Cursor) : Option Cursor :=
  match c.rest with
  | '&' :: rest | '!' :: rest =>
    some (c.upTo (rest.dropWhile fun d => !(isBlank d || d == '\n' || isFlowIndicator d)))
  | _ => none

def indicator (i : Char) (s : List Char) : Bool :=
  match s with
  | c :: rest => c == i && atSpace rest
  | [] => false

/-- Whether the value of a flow entry begins here: a colon, which may touch what follows if the
key is quoted or in brackets. -/
def atFlowValue (keyIsPlain : Bool) : List Char → Bool
  | ':' :: rest => !keyIsPlain || endsKey true rest
  | _ => false

def Node.isPlain : Node → Bool
  | .scalar plain _ => plain
  | _ => false

mutual

/-- A node within brackets. -/
def flowNode (c : Cursor) : Nat → Option Reading
  | 0 => none
  | fuel + 1 =>
    match c.rest with
    | '[' :: _ => flowItems (c.skip 1) fuel
    | '\x7b' :: _ => flowEntries (c.skip 1) fuel
    | '"' :: _ | '\'' :: _ =>
      (quoted? c).map fun s => ⟨.scalar false s.text, s.after, s.multiline⟩
    | rest =>
      match property? c with
      | some after => flowNode after.gap.content fuel
      | none =>
        if beginsPlain true rest then
          let s := plain true 0 fuel c
          some ⟨.scalar true s.text, s.after, s.multiline⟩
        else none

/-- The items of a sequence up to the closing bracket. -/
def flowItems (c : Cursor) : Nat → Option Reading
  | 0 => none
  | fuel + 1 =>
    let start := c.gap.content
    match start.rest with
    | ']' :: _ => some ⟨.sequence [], start.skip 1, true⟩
    | _ =>
      match flowItem start fuel with
      | none => none
      | some item =>
        let next := item.after.gap.content
        let more := match next.rest with
          | ',' :: _ => flowItems (next.skip 1) fuel
          | ']' :: _ => some ⟨.sequence [], next.skip 1, true⟩
          | _ => none
        match more with
        | some ⟨.sequence items, after, _⟩ => some ⟨.sequence (item.node :: items), after, true⟩
        | _ => none

/-- A node, or a key with its value, which is a mapping of one entry. -/
def flowItem (c : Cursor) : Nat → Option Reading
  | 0 => none
  | fuel + 1 =>
    match flowNode c fuel with
    | none => none
    | some key =>
      let next := key.after.gap.content
      if atFlowValue key.node.isPlain next.rest then
        (flowValue (next.skip 1) fuel).map fun value =>
          ⟨.mapping [(key.node, value.node)], value.after, true⟩
      else some key

/-- The value after a colon, which may be left out. -/
def flowValue (c : Cursor) : Nat → Option Reading
  | 0 => none
  | fuel + 1 =>
    let start := c.gap.content
    match start.rest with
    | ',' :: _ | ']' :: _ | '\x7d' :: _ => some ⟨.empty, start, true⟩
    | _ => flowNode start fuel

/-- The entries of a mapping up to the closing brace. -/
def flowEntries (c : Cursor) : Nat → Option Reading
  | 0 => none
  | fuel + 1 =>
    let start := c.gap.content
    match start.rest with
    | '\x7d' :: _ => some ⟨.mapping [], start.skip 1, true⟩
    | _ =>
      match flowEntry start fuel with
      | none => none
      | some (key, value) =>
        let next := value.after.gap.content
        let more := match next.rest with
          | ',' :: _ => flowEntries (next.skip 1) fuel
          | '\x7d' :: _ => some ⟨.mapping [], next.skip 1, true⟩
          | _ => none
        match more with
        | some ⟨.mapping entries, after, _⟩ =>
          some ⟨.mapping ((key, value.node) :: entries), after, true⟩
        | _ => none

/-- A key and its value, if it has one. -/
def flowEntry (c : Cursor) : Nat → Option (Node × Reading)
  | 0 => none
  | fuel + 1 =>
    match flowNode c fuel with
    | none => none
    | some key =>
      let next := key.after.gap.content
      if atFlowValue key.node.isPlain next.rest then
        (flowValue (next.skip 1) fuel).map (key.node, ·)
      else some (key.node, ⟨.empty, key.after, true⟩)

end

/-- A scalar or a bracketed collection in a block, which is what a key can be. -/
def inlineNode (least : Nat) (c : Cursor) (fuel : Nat) : Option Reading :=
  match c.rest with
  | '[' :: _ | '\x7b' :: _ =>
    (flowNode c fuel).map fun r =>
      { r with multiline := (c.rest.take (c.rest.length - r.after.rest.length)).contains '\n' }
  | '"' :: _ | '\'' :: _ =>
    (quoted? c).map fun s => ⟨.scalar false s.text, s.after, s.multiline⟩
  | rest =>
    if beginsPlain false rest then
      let s := plain false least fuel c
      some ⟨.scalar true s.text, s.after, s.multiline⟩
    else none

/-- The place after the colon that makes what was read a key: on the same line, and the key too. -/
def afterKey? (r : Reading) : Option Cursor :=
  let next := r.after.skipBlanks
  if indicator ':' next.rest && !r.multiline then some (next.skip 1) else none

/-- Whether nothing but blanks and a comment is left on the line. -/
def endsLine (c : Cursor) : Bool :=
  let g := c.gap
  g.newLine || g.content.rest.isEmpty

mutual

/-- A node in a block, after the indicator before it or at the start of a document. Its content is
indented to at least `least`; a sequence that is the value of a key may be one column less. If
`compact`, a collection may begin on the same line. -/
def blockNode (least : Nat) (compact value : Bool) (c : Cursor) : Nat → Option Reading
  | 0 => none
  | fuel + 1 =>
    let gap := c.gap
    let start := gap.content
    if start.atEnd then some ⟨.empty, c, true⟩
    else if gap.isTabbed least then none
    else if gap.newLine && start.column < least then
      if value && start.column + 1 == least && indicator '-' start.rest then
        blockItems start.column true start fuel
      else some ⟨.empty, c, true⟩
    else
      let opens := gap.newLine || compact
      match property? start with
      | some after => blockNode least opens value after fuel
      | none =>
        match start.rest with
        | '|' :: _ | '>' :: _ =>
          (blockScalar? (start.rest.head? == some '>') least (start.skip 1)).map
            fun (text, after) => ⟨.scalar false text, after, true⟩
        | rest =>
          if indicator '-' rest then
            if opens then blockItems start.column false start fuel else none
          else if indicator '?' rest then
            if opens then blockEntries start.column start fuel else none
          else match inlineNode least start fuel with
            | none => none
            | some r =>
              if (afterKey? r).isSome then
                if opens then blockEntries start.column start fuel else none
              else if endsLine r.after then some r
              else none
termination_by structural fuel => fuel

/-- The items of a sequence whose dashes are in this column. If `shared`, the column is that of the
keys around it. -/
def blockItems (column : Nat) (shared : Bool) (c : Cursor) : Nat → Option Reading
  | 0 => none
  | fuel + 1 =>
    match blockNode (column + 1) true false (c.skip 1) fuel with
    | none => none
    | some item =>
      let gap := item.after.gap
      let next := gap.content
      let done : Reading := ⟨.sequence [item.node], item.after, true⟩
      if next.atEnd || next.column < column then some done
      else if gap.isTabbed (column + 1) || next.column ≠ column then none
      else if indicator '-' next.rest then
        match blockItems column shared next fuel with
        | some ⟨.sequence items, after, _⟩ => some ⟨.sequence (item.node :: items), after, true⟩
        | _ => none
      else if shared then some done
      else none
termination_by structural fuel => fuel

/-- A key with its value, and the place after them. -/
def blockEntry (column : Nat) (c : Cursor) : Nat → Option (Node × Reading)
  | 0 => none
  | fuel + 1 =>
    if indicator '?' c.rest then
      match blockNode (column + 1) true false (c.skip 1) fuel with
      | none => none
      | some key =>
        let next := key.after.gap.content
        if next.column == column && indicator ':' next.rest then
          (blockNode (column + 1) true true (next.skip 1) fuel).map (key.node, ·)
        else some (key.node, ⟨.empty, key.after, true⟩)
    else match inlineNode (column + 1) c fuel with
      | none => none
      | some key =>
        (afterKey? key).bind fun after =>
          (blockNode (column + 1) false true after fuel).map (key.node, ·)
termination_by structural fuel => fuel

/-- The entries of a mapping whose keys are in this column. -/
def blockEntries (column : Nat) (c : Cursor) : Nat → Option Reading
  | 0 => none
  | fuel + 1 =>
    match blockEntry column c fuel with
    | none => none
    | some (key, value) =>
      let gap := value.after.gap
      let next := gap.content
      if next.atEnd || next.column < column then
        some ⟨.mapping [(key, value.node)], value.after, true⟩
      else if gap.isTabbed (column + 1) || next.column ≠ column then none
      else match blockEntries column next fuel with
        | some ⟨.mapping entries, after, _⟩ =>
          some ⟨.mapping ((key, value.node) :: entries), after, true⟩
        | _ => none
termination_by structural fuel => fuel

end

/-! ### Documents -/

/-- The text after a line. -/
def afterLine (s : List Char) : List Char :=
  (s.dropWhile (· != '\n')).drop 1

/-- The documents of a stream, or `none` if one of them is malformed. -/
def documents (c : Cursor) : Nat → Option (List Node)
  | 0 => none
  | fuel + 1 =>
    let start := c.gap.content
    let document (compact : Bool) (c : Cursor) : Option (List Node) :=
      match blockNode 0 compact false c fuel with
      | none => none
      | some r =>
        if r.after.gap.content.atEnd then (documents r.after fuel).map (r.node :: ·) else none
    match start.rest with
    | [] => some []
    | '%' :: rest =>
      if start.column = 0 then documents ⟨0, afterLine rest⟩ fuel else none
    | '-' :: '-' :: '-' :: rest =>
      if start.atEnd then document false ⟨start.column + 3, rest⟩ else document true start
    | '.' :: '.' :: '.' :: rest =>
      if start.atEnd then
        if endsLine ⟨3, rest⟩ then documents ⟨0, afterLine rest⟩ fuel else none
      else document true start
    | _ => document true start

def withoutByteOrderMark : List Char → List Char
  | '\ufeff' :: rest => rest
  | s => s

/-- The first document of a text, which may be left out. No document may be malformed. -/
def read? (text : String) : Option Node :=
  let s := normalizeBreaks (withoutByteOrderMark text.toList)
  (documents ⟨0, s⟩ (8 * s.length + 8)).map fun nodes => nodes.head?.getD .empty

end ProviderCoverage.Yaml

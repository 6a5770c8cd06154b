import Obfuscator.Toml.Reader
import Obfuscator.Number.Format
import Obfuscator.Text.Printable
/-!
# Assembling a TOML document

The tables that the lines give (see `Toml.tablesOf`) are assembled into the root table by one
walk, which reads the keys of each table in order and reads the value of each key before the
next key is read. A key met a second time in the same table is a fault when it is met, before
its value is read; so is a date-time that is no date-time, when its value is read.

## The walk through the tables

A walk stands in a table, at a number of header keys below the root, its depth. It takes the
values of the table's own lines first, each a key with its value. When they are used up, it
looks for the first table, from where it stands on, whose header begins with the first `depth`
keys of the table the walk belongs to and whose values are not yet taken:
* a table with a longer header gives its key at the walk's depth, and the value of that key is
  a walk one key deeper that belongs to it; an element of an array of tables whose last key it
  is gives instead the elements of that array;
* a table with this very header hands its values to the walk, to be read next; an element of an
  array of tables here is a table redefined as an array.

A table found with the same header as the table the walk belongs to is a table defined twice;
one found with a shorter header becomes the table the walk belongs to, so that a table defined
twice after a longer one is still found. The elements of an array of tables are the tables
with its header that are elements, each with the tables below it up to the next element.

## Faults

A fault names the keys that lead to it, outermost first. The walk adds the key whose value
it was reading; the entries of an inline table and of a table that dotted keys built add none.
A fault that has no offset takes the start of the value it was found in, or, failing that, the
place of the last table of the document.

A map whose first key is `$__toml_private_datetime` stands for a date-time: the value of that
key is read as the text of one, and the rest of the map is not read.
-/

namespace Obfuscator
namespace Toml

def datetimeField : String := "$__toml_private_datetime"

def datetimeExpected : String := "string containing a datetime"

def unplaced (f : Fault) : Error := { fault := f, offset := none }

def Error.underKey (k : String) (e : Error) : Error := { e with keys := k :: e.keys }

def Error.placedAt (o : Nat) (e : Error) : Error :=
  match e.offset with
  | some _ => e
  | none => { e with offset := some o }

def faultFloatFormat : FloatFormat := { positional := none, pointZero := true }

def Item.unexpected : Item → String
  | .scalar (.int i) _ => s!"integer `{i}`"
  | .scalar (.float f) _ => s!"floating point `{f.render faultFloatFormat}`"
  | .scalar (.bool b) _ => s!"boolean `{b}`"
  | .scalar (.str s) _ => "string " ++ Text.quoteText s
  | .scalar _ _ => "map"
  | .array _ _ => "sequence"
  | .datetime _ _ | .inline _ _ | .dotted _ _ => "map"

def datetimeOfItem : Item → Except Error Value
  | .scalar (.str s) start =>
    if (Datetime.parse? s.toList).isSome then .ok (.datetime s)
    else .error { fault := .datetimeInvalid, offset := some start }
  | v => .error { fault := .invalidType v.unexpected datetimeExpected, offset := some v.start }

/-! ## Values -/

mutual

/-- Reads an item as a value. A fault without an offset takes the start of the item. The fuel
bounds the depth of the reading; one step per item and entry is enough. -/
def readItem : Nat → Item → Except Error Value
  | 0, _ => .ok (.table [])
  | _ + 1, .scalar v _ => .ok v
  | _ + 1, .datetime text start =>
    if (Datetime.parse? text.toList).isSome then .ok (.datetime text)
    else .error { fault := .datetimeInvalid, offset := some start }
  | n + 1, .array items start =>
    match readItems n items with
    | .ok vs => .ok (.array vs)
    | .error e => .error (e.placedAt start)
  | n + 1, .inline es start => (readEntries n es).mapError (·.placedAt start)
  | n + 1, .dotted es start => (readEntries n es).mapError (·.placedAt start)

def readItems : Nat → List Item → Except Error (List Value)
  | _, [] => .ok []
  | 0, _ :: _ => .ok []
  | n + 1, v :: rest => do
    let x ← readItem n v
    let xs ← readItems n rest
    pure (x :: xs)

def readEntries : Nat → List (String × Item) → Except Error Value
  | _, [] => .ok (.table [])
  | 0, _ :: _ => .ok (.table [])
  | n + 1, (k, v) :: rest =>
    if k == datetimeField then datetimeOfItem v
    else do
      let x ← readItem n v
      readMoreEntries n rest [(k, x)]

def readMoreEntries : Nat → List (String × Item) → List (String × Value) → Except Error Value
  | _, [], acc => .ok (.table acc)
  | 0, _ :: _, acc => .ok (.table acc)
  | n + 1, (k, v) :: rest, acc =>
    if acc.any (·.1 == k) then .error (unplaced (.duplicateKey k))
    else do
      let x ← readItem n v
      readMoreEntries n rest (acc ++ [(k, x)])

end

/-! ## Walking the tables -/

/-- Where a walk through the tables stands: its depth in header keys, the table it belongs to,
the first table it may look at next, the end of the tables it may look at, and the values it
was handed and has not read yet. -/
structure Walk where
  depth : Nat
  parent : Nat
  cur : Nat
  stop : Nat
  pending : List (String × Item)
  deriving Inhabited

/-- What a walk finds next: nothing more, a key with its value, or a key of a header, below
which lie more tables. -/
inductive Found where
  | done
  | entry (k : String) (v : Item)
  | header (k : String)

def tableAt (ts : List TableLines) (i : Nat) : TableLines := ts.getD i default

def firstTable (ts : List TableLines) (p : TableLines → Bool) (lo hi : Nat) : Option Nat :=
  (List.range' lo (hi - lo)).find? fun i => p (tableAt ts i)

/-- Finds what a walk meets next, taking the values of the tables it enters. Each round that
does not return takes the values of one table, so one more round than there are tables is
fuel enough. -/
def seek : Nat → List TableLines → Walk → Except Error (Found × Walk × List TableLines)
  | 0, ts, w => .ok (.done, w, ts)
  | n + 1, ts, w =>
    match w.pending with
    | (k, v) :: rest => .ok (.entry k v, { w with pending := rest }, ts)
    | [] =>
      let prefixKeys := (tableAt ts w.parent).names.take w.depth
      let candidate := fun (t : TableLines) => t.values.isSome && t.names.take w.depth == prefixKeys
      match firstTable ts candidate w.cur w.stop with
      | none => .ok (.done, w, ts)
      | some pos =>
        let t := tableAt ts pos
        let p := tableAt ts w.parent
        if w.parent != pos && p.names == t.names then
          .error { fault := .duplicateTable (".".intercalate t.names), offset := some t.at_ }
        else
          let parent := if w.parent != pos && t.names.length < p.names.length then pos else w.parent
          let w := { w with cur := pos, parent }
          if w.depth != t.names.length then .ok (.header (t.names.getD w.depth ""), w, ts)
          else if t.isArray then .error { fault := .redefineAsArray, offset := some t.at_ }
          else
            seek n (ts.set pos { t with values := none }) { w with pending := t.values.getD [] }

def nextKey (ts : List TableLines) (w : Walk) : Except Error (Found × Walk × List TableLines) :=
  if w.parent == w.stop || w.cur == w.stop then .ok (.done, w, ts)
  else seek (ts.length + 1) ts w

def headerDatetimeFault (ts : List TableLines) (w : Walk) : Error :=
  let t := tableAt ts w.cur
  let array := t.isArray && w.depth + 1 == t.names.length
  { fault := .invalidType (if array then "sequence" else "map") datetimeExpected,
    keys := [datetimeField], offset := none }

mutual

/-- Reads the tables of a walk: the elements of an array of tables when `array`, a table of
keys otherwise. The fuel bounds the depth of the walk; one step per key, table and value is
enough. -/
def walkTables : Nat → Bool → List TableLines → Walk → Except Error (Value × List TableLines)
  | 0, _, ts, _ => .ok (.table [], ts)
  | n + 1, true, ts, w => walkElements n ts w []
  | n + 1, false, ts, w => walkMap n ts w

def walkMap : Nat → List TableLines → Walk → Except Error (Value × List TableLines)
  | 0, ts, _ => .ok (.table [], ts)
  | n + 1, ts, w => do
    let (found, w, ts) ← nextKey ts w
    match found with
    | .done => pure (.table [], ts)
    | .entry k v =>
      if k == datetimeField then
        let x ← (datetimeOfItem v).mapError (·.underKey k)
        pure (x, ts)
      else
        let x ← (readItem n v).mapError (·.underKey k)
        walkMapMore n ts w [(k, x)]
    | .header k =>
      if k == datetimeField then .error (headerDatetimeFault ts w)
      else
        let (x, ts, w) ← walkHeader n ts w
        walkMapMore n ts w [(k, x)]

def walkMapMore : Nat → List TableLines → Walk → List (String × Value) →
    Except Error (Value × List TableLines)
  | 0, ts, _, acc => .ok (.table acc, ts)
  | n + 1, ts, w, acc => do
    let (found, w, ts) ← nextKey ts w
    match found with
    | .done => pure (.table acc, ts)
    | .entry k v =>
      if acc.any (·.1 == k) then .error (unplaced (.duplicateKey k))
      else
        let x ← (readItem n v).mapError (·.underKey k)
        walkMapMore n ts w (acc ++ [(k, x)])
    | .header k =>
      if acc.any (·.1 == k) then .error (unplaced (.duplicateKey k))
      else
        let (x, ts, w) ← walkHeader n ts w
        walkMapMore n ts w (acc ++ [(k, x)])

def walkHeader : Nat → List TableLines → Walk →
    Except Error (Value × List TableLines × Walk)
  | 0, ts, w => .ok (.table [], ts, w)
  | n + 1, ts, w =>
    let t := tableAt ts w.cur
    let array := t.isArray && w.depth + 1 == t.names.length
    let inner : Walk :=
      { depth := if array then w.depth else w.depth + 1, parent := w.cur, cur := 0,
        stop := w.stop, pending := [] }
    match walkTables n array ts inner with
    | .ok (x, ts) => .ok (x, ts, { w with cur := w.cur + 1 })
    | .error e => .error (e.underKey (t.names.getD w.depth ""))

def walkElements : Nat → List TableLines → Walk → List Value →
    Except Error (Value × List TableLines)
  | 0, ts, _, acc => .ok (.array acc.reverse, ts)
  | n + 1, ts, w, acc =>
    if w.parent == w.stop then .ok (.array acc.reverse, ts)
    else
      let t := tableAt ts w.parent
      let next := (firstTable ts (fun u => u.names == t.names && u.isArray) (w.parent + 1)
        w.stop).getD w.stop
      let element : Walk :=
        { depth := w.depth + 1, parent := w.parent, cur := 0, stop := next,
          pending := t.values.getD [] }
      match walkTables n false (ts.set w.parent { t with values := none }) element with
      | .ok (x, ts) => walkElements n ts { w with parent := next } (x :: acc)
      | .error e => .error e

end

/-- Reads TOML text into its root table. A root that stands for a date-time is no table and
gives none. -/
def parse (text : List Char) : Except Error (List (String × Value)) := do
  let ts ← tablesOf text
  let root : Walk := { depth := 0, parent := 0, cur := 0, stop := ts.length, pending := [] }
  match walkMap (16 * (text.length + 1)) ts root with
  | .ok (.table es, _) => .ok es
  | .ok _ => .ok []
  | .error e =>
    match ts.getLast? with
    | some t => .error (e.placedAt t.at_)
    | none => .error e

end Toml
end Obfuscator

/-
The YAML of a bridge profile (`bridge_profiles.rs`), and the rules of YAML by
which it is read: block mappings by indentation, plain keys, double-quoted
scalars and flow sequences of them.
-/
import IlinkHub.Text
import Mathlib.Data.List.Forall2

namespace IlinkHub

open Text

structure EnvVar where
  key : String
  value : String
deriving Repr, DecidableEq

namespace ProfileYaml

/-- How `yaml_quote` writes a character. -/
def escape : Char → List Char
  | '\\' => ['\\', '\\']
  | '"' => ['\\', '"']
  | '\n' => ['\\', 'n']
  | '\r' => ['\\', 'r']
  | '\t' => ['\\', 't']
  | c => [c]

def yamlQuote (s : String) : List Char :=
  '"' :: (s.toList.flatMap escape ++ ['"'])

def yamlStringArray (items : List String) : List Char :=
  '[' :: ([',', ' '].intercalate (items.map yamlQuote) ++ [']'])

/-- Lines, each with its line feed. -/
def unlines (lines : List (List Char)) : List Char :=
  lines.flatMap (· ++ ['\n'])

def validVars (envVars : List EnvVar) : List EnvVar :=
  envVars.filter fun e => !isBlank e.key

def envLine (indent : Nat) (e : EnvVar) : List Char :=
  List.replicate (indent + 2) ' ' ++
    ((trim e.key).toList ++ ':' :: ' ' :: yamlQuote (trim e.value))

def envVarsYaml (envVars : List EnvVar) (indent : Nat) : List (List Char) :=
  if validVars envVars = [] then []
  else (List.replicate indent ' ' ++ "env:".toList) :: (validVars envVars).map (envLine indent)

/-- The lines of a profile with a command. -/
def commandLines (command : String) (args : List String) (cwd : String) (envVars : List EnvVar) :
    List (List Char) :=
  ["agentproc:".toList, "  command: ".toList ++ yamlQuote (trim command),
    "  args: ".toList ++ yamlStringArray args, "  cwd: ".toList ++ yamlQuote (trim cwd)] ++
    envVarsYaml envVars 2

end ProfileYaml

open ProfileYaml

def buildClaudeProfileYaml (cwd : String) (envVars : List EnvVar) : Except String String :=
  if isBlank cwd then .error "请填写项目目录"
  else .ok (String.ofList (unlines (["agentproc:".toList, "  executor: claude-code".toList,
    "  cwd: ".toList ++ yamlQuote (trim cwd)] ++ envVarsYaml envVars 2)))

def buildSimpleCommandYaml (command : String) (args : List String) (cwd : String)
    (envVars : List EnvVar) : Except String String :=
  if isBlank cwd then .error "请填写项目目录"
  else if isBlank command then .error "请填写命令"
  else .ok (String.ofList (unlines (commandLines command args cwd envVars)))

namespace Yaml

/-- `s-white`. -/
def white (c : Char) : Bool :=
  c == ' ' || c == '\t'

/-- `nb-json`, what may stand in quotes as it is. -/
def nbJson (c : Char) : Bool :=
  0x20 ≤ c.toNat || c == '\t'

/-- `ns-char`. -/
def nsChar (c : Char) : Bool :=
  (0x21 ≤ c.toNat && c.toNat ≤ 0x7E) || c.toNat == 0x85 || (0xA0 ≤ c.toNat && c.toNat ≠ 0xFEFF &&
    c.toNat ≠ 0xFFFE && c.toNat ≠ 0xFFFF)

/-- `ns-plain-first`: no indicator, but for three of them in front of another
character. -/
def plainFirst (c : Char) (next : Option Char) : Bool :=
  nsChar c && (c ∉ "-?:,[]\x7b\x7d#&*!|>'\"%@`".toList || (c ∈ "-?:".toList && next.any nsChar))

/-- `ns-plain-char`, and the blanks between. -/
def plainChar (prev c : Char) : Bool :=
  white c || (nsChar c && (c ≠ '#' || !white prev))

/-- A plain key up to the colon that ends it. -/
def scanPlain (prev : Char) : List Char → Option (List Char × List Char)
  | [] => none
  | c :: rest =>
    if c = ':' ∧ rest.head?.all white then if white prev then none else some ([], rest)
    else if c = ':' ∨ plainChar prev c then
      (scanPlain c rest).map fun (key, tail) => (c :: key, tail)
    else none

/-- An implicit key has at most 1024 characters. -/
def scanKey : List Char → Option (List Char × List Char)
  | [] => none
  | c :: rest =>
    if plainFirst c rest.head? then
      (scanPlain c rest).bind fun (key, tail) =>
        if key.length < 1024 then some (c :: key, tail) else none
    else none

/-- The escapes that `yaml_quote` writes. -/
def unescape : Char → Option Char
  | '\\' => some '\\'
  | '"' => some '"'
  | 'n' => some '\n'
  | 'r' => some '\r'
  | 't' => some '\t'
  | _ => none

/-- A double-quoted scalar behind its opening quote. -/
def scanQuoted : List Char → Option (List Char × List Char)
  | [] => none
  | ['\\'] => none
  | '"' :: rest => some ([], rest)
  | '\\' :: e :: rest => (unescape e).bind fun c =>
    (scanQuoted rest).map fun (text, tail) => (c :: text, tail)
  | c :: rest =>
    if nbJson c then (scanQuoted rest).map fun (text, tail) => (c :: text, tail) else none

/-- The items of a flow sequence behind its bracket. -/
def scanItems : Nat → List Char → Option (List (List Char) × List Char)
  | 0, _ => none
  | fuel + 1, text =>
    match text.dropWhile white with
    | ']' :: rest => some ([], rest)
    | '"' :: rest => (scanQuoted rest).bind fun (item, rest) =>
      match rest.dropWhile white with
      | ',' :: rest => (scanItems fuel rest).map fun (items, tail) => (item :: items, tail)
      | ']' :: rest => some ([item], rest)
      | _ => none
    | _ => none

inductive Value
  | scalar (text : List Char)
  | seq (items : List (List Char))
deriving Repr, DecidableEq

def scanValue : List Char → Option (Value × List Char)
  | '"' :: rest => (scanQuoted rest).map fun (text, tail) => (.scalar text, tail)
  | '[' :: rest => (scanItems rest.length rest).map fun (items, tail) => (.seq items, tail)
  | _ => none

/-- An entry of a block mapping, with the value on its line if there is one.  The
mappings nest by indentation. -/
structure Entry where
  indent : Nat
  key : List Char
  value : Option Value
deriving Repr, DecidableEq

def parseEntry (indent : Nat) (body : List Char) : Option Entry :=
  (scanKey body).bind fun (key, rest) =>
    if rest.all white then some ⟨indent, key, none⟩
    else (scanValue (rest.dropWhile white)).bind fun (value, tail) =>
      if tail.all white then some ⟨indent, key, some value⟩ else none

def parseLine (line : List Char) : Option Entry :=
  parseEntry (line.takeWhile (· == ' ')).length (line.dropWhile (· == ' '))

/-- Lines without content: blank or a comment. -/
def idle (line : List Char) : Bool :=
  (line.dropWhile white).head?.all (· == '#')

def parseLines : List (List Char) → Option (List Entry)
  | [] => some []
  | line :: rest =>
    if idle line then parseLines rest
    else (parseLine line).bind fun e => (parseLines rest).map (e :: ·)

/-- As YAML 1.2 says; the parser that the program uses (libyaml) also refuses U+007F
and the C1 controls other than U+0085. -/
def parse (text : List Char) : Option (List Entry) :=
  parseLines (text.splitOn '\n')

/-- What a quoted text may consist of. -/
def printable (c : Char) : Bool :=
  nbJson c || c == '\n' || c == '\r'

def Value.texts : Value → List (List Char)
  | scalar text => [text]
  | seq items => items

/-- A key that a colon may follow. -/
def plainTail (prev : Char) : List Char → Bool
  | [] => !white prev
  | c :: rest =>
    ¬ (c = ':' ∧ rest.head?.any white) ∧ (c = ':' ∨ plainChar prev c) ∧ plainTail c rest

def plainKey : List Char → Bool
  | [] => false
  | c :: rest => plainFirst c (rest ++ [':']).head? && plainTail c rest && rest.length < 1024

/-- What the rules let through. -/
structure Entry.Sound (e : Entry) : Prop where
  key : plainKey e.key = true
  value : ∀ v, e.value = some v → ∀ text ∈ v.texts, text.all printable = true

section Keys

variable {prev : Char} {key rest text : List Char}

lemma head?_all_append (key rest : List Char) :
    (key ++ ':' :: rest).head?.all white = key.head?.any white := by
  cases key <;> rfl

lemma scanPlain_append (hkey : plainTail prev key = true) (rest : List Char) :
    scanPlain prev (key ++ ':' :: ' ' :: rest) = some (key, ' ' :: rest) := by
  induction key generalizing prev with
  | nil =>
    have hprev : ¬ white prev = true := by simpa [plainTail] using hkey
    rw [List.nil_append, scanPlain, if_pos ⟨rfl, rfl⟩, if_neg hprev]
  | cons c key ih =>
    obtain ⟨hend, hchar, htail⟩ := of_decide_eq_true hkey
    rw [List.cons_append, scanPlain, head?_all_append, if_neg hend, if_pos hchar, ih htail]
    rfl

lemma of_scanPlain (hscan : scanPlain prev text = some (key, rest)) :
    text = key ++ ':' :: rest ∧ plainTail prev key = true := by
  induction text generalizing prev key with
  | nil => cases hscan
  | cons c text ih =>
    rw [scanPlain] at hscan
    split at hscan
    · next hend =>
      split at hscan
      · cases hscan
      · next hprev =>
        cases hscan
        exact ⟨by rw [hend.1, List.nil_append], by simpa [plainTail] using hprev⟩
    · next hend =>
      obtain ⟨hchar, hmap⟩ := Option.ite_none_right_eq_some.mp hscan
      obtain ⟨⟨key, tail⟩, hrest, heq⟩ := Option.map_eq_some_iff.mp hmap
      cases heq
      obtain ⟨rfl, htail⟩ := ih hrest
      rw [head?_all_append] at hend
      exact ⟨rfl, decide_eq_true ⟨hend, hchar, htail⟩⟩

lemma notMem_of_plainTail (hkey : plainTail prev key = true) : '\n' ∉ key := by
  induction key generalizing prev with
  | nil => exact List.not_mem_nil
  | cons c key ih =>
    obtain ⟨-, hchar, htail⟩ := of_decide_eq_true hkey
    rw [List.mem_cons, not_or]
    refine ⟨?_, ih htail⟩
    rintro rfl
    simp [plainChar, white, nsChar] at hchar

lemma notMem_of_plainKey (hkey : plainKey key = true) : '\n' ∉ key := by
  cases key with
  | nil => exact List.not_mem_nil
  | cons c key =>
    simp only [plainKey, Bool.and_eq_true] at hkey
    rw [List.mem_cons, not_or]
    refine ⟨?_, notMem_of_plainTail hkey.1.2⟩
    rintro rfl
    cases hkey.1.1

lemma scanKey_append (hkey : plainKey key = true) (rest : List Char) :
    scanKey (key ++ ':' :: ' ' :: rest) = some (key, ' ' :: rest) := by
  cases key with
  | nil => cases hkey
  | cons c key =>
    simp only [plainKey, Bool.and_eq_true, decide_eq_true_eq] at hkey
    have hnext : (key ++ ':' :: ' ' :: rest).head? = (key ++ [':']).head? := by cases key <;> rfl
    rw [List.cons_append, scanKey, hnext, if_pos hkey.1.1, scanPlain_append hkey.1.2]
    exact if_pos hkey.2

lemma plainKey_of_scanKey (hscan : scanKey text = some (key, rest)) : plainKey key = true := by
  cases text with
  | nil => cases hscan
  | cons c text =>
    obtain ⟨hfirst, hmap⟩ := Option.ite_none_right_eq_some.mp hscan
    obtain ⟨⟨key, tail⟩, hrest, hend⟩ := Option.bind_eq_some_iff.mp hmap
    obtain ⟨hshort, heq⟩ := Option.ite_none_right_eq_some.mp hend
    cases heq
    obtain ⟨rfl, htail⟩ := of_scanPlain hrest
    have hnext : (key ++ ':' :: rest).head? = (key ++ [':']).head? := by cases key <;> rfl
    rw [hnext] at hfirst
    rw [plainKey, hfirst, htail]
    exact decide_eq_true hshort

end Keys

section Values

lemma scanQuoted_escape {c : Char} (hc : printable c = true) (rest : List Char) :
    scanQuoted (escape c ++ rest) =
      (scanQuoted rest).map fun (text, tail) => (c :: text, tail) := by
  unfold escape
  split
  · rfl
  · rfl
  · rfl
  · rfl
  · rfl
  · next hslash hquote hlf hcr _ =>
    simp only [printable, Bool.or_eq_true, beq_iff_eq] at hc
    have hjson := (hc.resolve_right hcr).resolve_right hlf
    rw [List.singleton_append, scanQuoted, if_pos hjson]
    · exact fun hlast _ => hslash hlast
    · exact hquote
    · exact fun _ _ hnext _ => hslash hnext

lemma scanQuoted_flatMap {text : List Char} (htext : text.all printable = true)
    (rest : List Char) : scanQuoted (text.flatMap escape ++ '"' :: rest) = some (text, rest) := by
  induction text with
  | nil => rfl
  | cons c text ih =>
    rw [List.all_cons, Bool.and_eq_true] at htext
    rw [List.flatMap_cons, List.append_assoc, scanQuoted_escape htext.1, ih htext.2]
    rfl

lemma printable_of_scanQuoted {text value rest : List Char}
    (hscan : scanQuoted text = some (value, rest)) : value.all printable = true := by
  fun_induction scanQuoted text generalizing value with
  | case1 => cases hscan
  | case2 => cases hscan
  | case3 rest => 
    cases hscan
    rfl
  | case4 e rest ih =>
    obtain ⟨c, hc, hmap⟩ := Option.bind_eq_some_iff.mp hscan
    obtain ⟨⟨text, tail⟩, hrest, heq⟩ := Option.map_eq_some_iff.mp hmap
    cases heq
    rw [List.all_cons, ih hrest]
    unfold unescape at hc
    split at hc <;> cases hc <;> rfl
  | case5 c rest _ _ _ hc ih =>
    obtain ⟨⟨text, tail⟩, hrest, heq⟩ := Option.map_eq_some_iff.mp hscan
    cases heq
    rw [List.all_cons, ih hrest, printable, hc]
    rfl
  | case6 => cases hscan

lemma scanItems_blank (fuel : Nat) (text : List Char) :
    scanItems fuel (' ' :: text) = scanItems fuel text := by
  cases fuel <;> rfl

lemma scanItems_quote {s : String} (hs : s.toList.all printable = true) (fuel : Nat)
    (rest : List Char) :
    scanItems (fuel + 1) (yamlQuote s ++ ',' :: rest) =
      (scanItems fuel rest).map fun (items, tail) => (s.toList :: items, tail) := by
  rw [yamlQuote, List.cons_append, List.append_assoc]
  change (scanQuoted (s.toList.flatMap escape ++ '"' :: ',' :: rest)).bind _ = _
  rw [scanQuoted_flatMap hs]
  rfl

lemma scanItems_last {s : String} (hs : s.toList.all printable = true) (fuel : Nat) :
    scanItems (fuel + 1) (yamlQuote s ++ [']']) = some ([s.toList], []) := by
  rw [yamlQuote, List.cons_append, List.append_assoc]
  change (scanQuoted (s.toList.flatMap escape ++ '"' :: [']'])).bind _ = _
  rw [scanQuoted_flatMap hs]
  rfl

lemma scanItems_array {items : List String}
    (hitems : ∀ s ∈ items, s.toList.all printable = true) {fuel : Nat}
    (hfuel : items.length < fuel) :
    scanItems fuel ([',', ' '].intercalate (items.map yamlQuote) ++ [']']) =
      some (items.map String.toList, []) := by
  induction items generalizing fuel with
  | nil =>
    obtain ⟨fuel, rfl⟩ := Nat.exists_eq_succ_of_ne_zero (ne_of_gt hfuel)
    rfl
  | cons item items ih =>
    obtain ⟨hitem, hrest⟩ := List.forall_mem_cons.mp hitems
    obtain ⟨fuel, rfl⟩ := Nat.exists_eq_succ_of_ne_zero (ne_of_gt (Nat.zero_lt_of_lt hfuel))
    cases items with
    | nil =>
      rw [List.map_singleton, List.intercalate_singleton, scanItems_last hitem, List.map_singleton]
    | cons next items =>
      have hscan := ih hrest (Nat.lt_of_succ_lt_succ hfuel)
      rw [List.map_cons] at hscan
      rw [List.map_cons, List.map_cons, List.intercalate_cons_cons, List.append_assoc,
        List.append_assoc, List.cons_append, scanItems_quote hitem, List.singleton_append,
        scanItems_blank, hscan]
      rfl

lemma printable_of_scanItems {fuel : Nat} {text rest : List Char} {items : List (List Char)}
    (hscan : scanItems fuel text = some (items, rest)) :
    ∀ item ∈ items, item.all printable = true := by
  induction fuel generalizing text items with
  | zero => cases hscan
  | succ fuel ih =>
    rw [scanItems] at hscan
    split at hscan
    · cases hscan
      simp
    · obtain ⟨⟨item, tail⟩, hquoted, hmore⟩ := Option.bind_eq_some_iff.mp hscan
      have hitem := printable_of_scanQuoted hquoted
      dsimp only at hmore
      split at hmore
      · obtain ⟨⟨others, tail⟩, hothers, heq⟩ := Option.map_eq_some_iff.mp hmore
        cases heq
        exact List.forall_mem_cons.mpr ⟨hitem, ih hothers⟩
      · cases hmore
        exact List.forall_mem_singleton.mpr hitem
      · cases hmore
    · cases hscan

lemma scanValue_yamlQuote {s : String} (hs : s.toList.all printable = true) :
    scanValue (yamlQuote s) = some (.scalar s.toList, []) := by
  rw [yamlQuote, scanValue, scanQuoted_flatMap hs]
  rfl

lemma scanValue_yamlStringArray {items : List String}
    (hitems : ∀ s ∈ items, s.toList.all printable = true) :
    scanValue (yamlStringArray items) = some (.seq (items.map String.toList), []) := by
  have hlength : items.length ≤ ([',', ' '].intercalate (items.map yamlQuote)).length := by
    clear hitems
    induction items with
    | nil => exact Nat.zero_le _
    | cons item items ih =>
      cases items with
      | nil => exact Nat.succ_le_succ (Nat.zero_le _)
      | cons next items =>
        rw [List.map_cons] at ih
        rw [List.map_cons, List.map_cons, List.intercalate_cons_cons, List.length_append,
          List.length_append]
        simp only [List.length_cons] at ih ⊢
        omega
  rw [yamlStringArray, scanValue, scanItems_array hitems]
  · rfl
  · rw [List.length_append]
    exact Nat.lt_succ_of_le hlength

end Values

section Lines

/-- A line with content, and its entry. -/
structure Reads (line : List Char) (e : Entry) : Prop where
  single : '\n' ∉ line
  content : idle line = false
  entry : parseLine line = some e

lemma reads_append {key tail : List Char} {c : Char} {v : Value} (hkey : plainKey key = true)
    (hc : white c = false) (hsingle : '\n' ∉ c :: tail)
    (hvalue : scanValue (c :: tail) = some (v, [])) (n : Nat) :
    Reads (List.replicate n ' ' ++ (key ++ ':' :: ' ' :: c :: tail)) ⟨n, key, some v⟩ := by
  have hscan := scanKey_append hkey (c :: tail)
  have hlf := notMem_of_plainKey hkey
  cases key with
  | nil => cases hkey
  | cons d key =>
    have hd : d ≠ ' ' ∧ d ≠ '\t' ∧ d ≠ '#' := by
      simp only [plainKey, Bool.and_eq_true] at hkey
      refine ⟨?_, ?_, ?_⟩ <;> rintro rfl <;> cases hkey.1.1
    have hpad : ∀ a ∈ List.replicate n ' ', (a == ' ') = true := by simp
    have hwhite : ∀ a ∈ List.replicate n ' ', white a = true := by simp [white]
    have hblank : ¬ (' ' :: c :: tail).all white = true := by simp [hc]
    have hdrop : (' ' :: c :: tail).dropWhile white = c :: tail :=
      (List.dropWhile_cons_of_pos rfl).trans (List.dropWhile_cons_of_neg (by simp [hc]))
    constructor
    · rw [List.mem_append, List.mem_append, not_or, not_or]
      exact ⟨by simp, hlf, by simpa using hsingle⟩
    · rw [idle, List.dropWhile_append_of_pos hwhite, List.cons_append,
        List.dropWhile_cons_of_neg (by simp [white, hd])]
      simp [hd]
    · rw [parseLine, List.takeWhile_append_of_pos hpad, List.dropWhile_append_of_pos hpad,
        List.cons_append, List.takeWhile_cons_of_neg (by simp [hd]),
        List.dropWhile_cons_of_neg (by simp [hd]), List.append_nil,
        List.length_replicate, parseEntry, ← List.cons_append, hscan, Option.bind_some]
      dsimp only
      rw [if_neg hblank, hdrop, hvalue]
      rfl

lemma parse_unlines {lines : List (List Char)} {entries : List Entry}
    (hreads : List.Forall₂ Reads lines entries) : parse (unlines lines) = some entries := by
  rw [parse]
  induction hreads with
  | nil => rfl
  | cons hline _ ih =>
    rw [unlines, List.flatMap_cons, List.append_assoc, List.singleton_append,
      List.splitOn_append_cons_self_of_not_mem hline.single, parseLines,
      if_neg (by simp [hline.content]), hline.entry, ← unlines, ih]
    rfl

lemma sound_of_parseLine {line : List Char} {e : Entry} (hline : parseLine line = some e) :
    e.Sound := by
  obtain ⟨⟨key, rest⟩, hscan, hentry⟩ := Option.bind_eq_some_iff.mp hline
  dsimp only at hentry
  split at hentry
  · cases hentry
    exact ⟨plainKey_of_scanKey hscan, fun v hv => by cases hv⟩
  · obtain ⟨⟨value, tail⟩, hvalue, hend⟩ := Option.bind_eq_some_iff.mp hentry
    obtain ⟨-, heq⟩ := Option.ite_none_right_eq_some.mp hend
    cases heq
    refine ⟨plainKey_of_scanKey hscan, ?_⟩
    rintro v ⟨⟩
    unfold scanValue at hvalue
    split at hvalue
    · obtain ⟨⟨text, tail⟩, hquoted, heq⟩ := Option.map_eq_some_iff.mp hvalue
      cases heq
      exact List.forall_mem_singleton.mpr (printable_of_scanQuoted hquoted)
    · obtain ⟨⟨items, tail⟩, hitems, heq⟩ := Option.map_eq_some_iff.mp hvalue
      cases heq
      exact printable_of_scanItems hitems
    · cases hvalue

lemma sound_of_parseLines {lines : List (List Char)} {entries : List Entry}
    (hparse : parseLines lines = some entries) : ∀ e ∈ entries, e.Sound := by
  induction lines generalizing entries with
  | nil =>
    cases hparse
    simp
  | cons line rest ih =>
    rw [parseLines] at hparse
    split at hparse
    · exact ih hparse
    · obtain ⟨e, hline, hmap⟩ := Option.bind_eq_some_iff.mp hparse
      obtain ⟨others, hrest, rfl⟩ := Option.map_eq_some_iff.mp hmap
      exact List.forall_mem_cons.mpr ⟨sound_of_parseLine hline, ih hrest⟩

end Lines

end Yaml

namespace ProfileYaml

/-- The fields and pairs that were entered. -/
def entered (command : String) (args : List String) (cwd : String) (envVars : List EnvVar) :
    List Yaml.Entry :=
  [⟨0, "agentproc".toList, none⟩, ⟨2, "command".toList, some (.scalar (trim command).toList)⟩,
    ⟨2, "args".toList, some (.seq (args.map String.toList))⟩,
    ⟨2, "cwd".toList, some (.scalar (trim cwd).toList)⟩] ++
    if envVars = [] then [] else
      ⟨2, "env".toList, none⟩ :: envVars.map fun e =>
        ⟨4, (trim e.key).toList, some (.scalar (trim e.value).toList)⟩

/-- The texts that are written in quotes. -/
def quoted (command : String) (args : List String) (cwd : String) (envVars : List EnvVar) :
    List String :=
  trim command :: trim cwd :: (args ++ envVars.map fun e => trim e.value)

lemma notMem_yamlQuote (s : String) : '\n' ∉ yamlQuote s := by
  have hescape : ∀ c, '\n' ∉ escape c := by
    intro c
    unfold escape
    split
    · decide
    · decide
    · decide
    · decide
    · decide
    · next hlf _ _ => simpa using Ne.symm hlf
  simp [yamlQuote, hescape]

lemma notMem_yamlStringArray (items : List String) : '\n' ∉ yamlStringArray items := by
  have hjoined : '\n' ∉ [',', ' '].intercalate (items.map yamlQuote) := by
    induction items with
    | nil => exact List.not_mem_nil
    | cons item items ih =>
      cases items with
      | nil =>
        rw [List.map_singleton, List.intercalate_singleton]
        exact notMem_yamlQuote item
      | cons next items =>
        rw [List.map_cons] at ih
        simp [notMem_yamlQuote, ih]
  simp [yamlStringArray, hjoined]

section Printed

variable {command cwd : String} {args : List String} {envVars : List EnvVar}

lemma reads_commandLines (hblank : ∀ e ∈ envVars, isBlank e.key = false)
    (hquoted : ∀ s ∈ quoted command args cwd envVars, s.toList.all Yaml.printable = true)
    (hplain : ∀ e ∈ envVars, Yaml.plainKey (trim e.key).toList = true) :
    List.Forall₂ Yaml.Reads (commandLines command args cwd envVars)
      (entered command args cwd envVars) := by
  have hvalid : validVars envVars = envVars :=
    List.filter_eq_self.mpr fun e he => by rw [hblank e he]; rfl
  have hquote : ∀ {key : List Char}, Yaml.plainKey key = true →
      ∀ s ∈ quoted command args cwd envVars, ∀ n, Yaml.Reads (List.replicate n ' ' ++
        (key ++ ':' :: ' ' :: yamlQuote s)) ⟨n, key, some (.scalar s.toList)⟩ :=
    fun hkey s hs n => Yaml.reads_append hkey rfl (notMem_yamlQuote s)
      (Yaml.scanValue_yamlQuote (hquoted s hs)) n
  refine .cons ⟨by decide, by decide, by decide⟩
    (.cons (hquote (by decide : Yaml.plainKey "command".toList = true) _ ?_ 2)
    (.cons (Yaml.reads_append (by decide : Yaml.plainKey "args".toList = true) rfl
      (notMem_yamlStringArray args) (Yaml.scanValue_yamlStringArray ?_) 2)
    (.cons (hquote (by decide : Yaml.plainKey "cwd".toList = true) _ ?_ 2) ?_)))
  · exact List.mem_cons_self
  · exact fun s hs => hquoted s (by simp [quoted, hs])
  · exact List.mem_cons_of_mem _ List.mem_cons_self
  · rw [envVarsYaml, hvalid]
    split
    · exact .nil
    · refine .cons ⟨by decide, by decide, by decide⟩ ?_
      rw [List.forall₂_map_left_iff, List.forall₂_map_right_iff, List.forall₂_same]
      intro e he
      exact hquote (hplain e he) _ (by simp [quoted]; exact .inr (.inr (.inr ⟨e, he, rfl⟩))) 4

lemma toList_of_buildSimpleCommandYaml {yaml : String}
    (hbuilt : buildSimpleCommandYaml command args cwd envVars = .ok yaml) :
    yaml.toList = unlines (commandLines command args cwd envVars) := by
  unfold buildSimpleCommandYaml at hbuilt
  split at hbuilt
  · cases hbuilt
  · split at hbuilt
    · cases hbuilt
    · rw [← Except.ok.inj hbuilt, String.toList_ofList]

end Printed

end ProfileYaml

/-- The YAML means what was entered exactly if no control character stands in a
quoted text and every key is a plain scalar. -/
theorem buildSimpleCommandYaml_parse_iff {command cwd yaml : String} {args : List String}
    {envVars : List EnvVar} (hblank : ∀ e ∈ envVars, isBlank e.key = false)
    (hbuilt : buildSimpleCommandYaml command args cwd envVars = .ok yaml) :
    Yaml.parse yaml.toList = some (entered command args cwd envVars) ↔
      (∀ s ∈ quoted command args cwd envVars, s.toList.all Yaml.printable = true) ∧
        ∀ e ∈ envVars, Yaml.plainKey (trim e.key).toList = true := by
  constructor
  · intro hparse
    have hsound := Yaml.sound_of_parseLines hparse
    simp only [entered, List.forall_mem_append, List.forall_mem_cons] at hsound
    obtain ⟨⟨-, hcommand, hargs, hcwd, -⟩, henv⟩ := hsound
    have hpair : ∀ e ∈ envVars, Yaml.Entry.Sound ⟨4, (trim e.key).toList,
        some (.scalar (trim e.value).toList)⟩ := by
      intro e he
      rw [if_neg (List.ne_nil_of_mem he)] at henv
      exact henv _ (List.mem_cons_of_mem _ (List.mem_map_of_mem he))
    refine ⟨?_, fun e he => (hpair e he).key⟩
    intro s hs
    simp only [quoted, List.mem_cons, List.mem_append, List.mem_map] at hs
    rcases hs with rfl | rfl | hs | ⟨e, he, rfl⟩
    · exact hcommand.value _ rfl _ List.mem_cons_self
    · exact hcwd.value _ rfl _ List.mem_cons_self
    · exact hargs.value _ rfl _ (List.mem_map_of_mem hs)
    · exact (hpair e he).value _ rfl _ List.mem_cons_self
  · rintro ⟨hquoted, hplain⟩
    rw [toList_of_buildSimpleCommandYaml hbuilt,
      Yaml.parse_unlines (reads_commandLines hblank hquoted hplain)]

theorem buildSimpleCommandYaml_parse_codex :
    Yaml.parse (String.ofList (unlines
        (commandLines "codex" ["a\nb"] " /w " [⟨"A", "x: \"1\""⟩]))).toList =
      some (entered "codex" ["a\nb"] " /w " [⟨"A", "x: \"1\""⟩]) :=
  (buildSimpleCommandYaml_parse_iff (by decide) rfl).mpr ⟨by decide, by decide⟩

/-- A key that ends before its end: the line is no entry. -/
theorem buildSimpleCommandYaml_colon :
    (buildSimpleCommandYaml "codex" [] "/w" [⟨"A: B", "1"⟩]).toOption.map
      (fun yaml => Yaml.parse yaml.toList) = some none := by
  decide

end IlinkHub

import ParcelPilot.Dictionaries

namespace ParcelPilot

-- JSON without numbers
inductive Json where
  | null
  | bool (value : Bool)
  | str (value : String)
  | list (items : List Json)
  | dict (entries : List (String × Json))

namespace Json

-- `json.dumps(value)`
mutual

def dumps : Json → String
  | .null => "null"
  | .bool value => if value then "true" else "false"
  | .str value => Py.jsonString value
  | .list [] => "[]"
  | .list (item :: rest) => "[" ++ item.dumps ++ dumpItems rest ++ "]"
  | .dict [] => "\x7b\x7d"
  | .dict ((key,value) :: rest) =>
      "\x7b" ++ Py.jsonString key ++ ": " ++ value.dumps ++ dumpEntries rest ++ "\x7d"

def dumpItems : List Json → String
  | [] => ""
  | item :: rest => ", " ++ item.dumps ++ dumpItems rest

def dumpEntries : List (String × Json) → String
  | [] => ""
  | (key,value) :: rest => ", " ++ Py.jsonString key ++ ": " ++ value.dumps ++ dumpEntries rest

end

def hexValue (c : Char) : Option Nat :=
  if 48 ≤ c.toNat ∧ c.toNat ≤ 57 then some (c.toNat - 48)
  else if 97 ≤ c.toNat ∧ c.toNat ≤ 102 then some (c.toNat - 87)
  else if 65 ≤ c.toNat ∧ c.toNat ≤ 70 then some (c.toNat - 55)
  else none

def readHex4 : List Char → Option (Nat × List Char)
  | one :: two :: three :: four :: rest => do
      let one ← hexValue one
      let two ← hexValue two
      let three ← hexValue three
      let four ← hexValue four
      some (((one * 16 + two) * 16 + three) * 16 + four,rest)
  | _ => none

-- Behind a backslash. A surrogate without its partner is no character here.
def readEscape : List Char → Option (Char × List Char)
  | 'u' :: rest => do
      let (unit,rest) ← readHex4 rest
      if 55296 ≤ unit ∧ unit < 56320 then
        match rest with
        | '\\' :: 'u' :: rest => do
            let (low,rest) ← readHex4 rest
            if 56320 ≤ low ∧ low < 57344 then
              some (Char.ofNat (65536 + (unit - 55296) * 1024 + (low - 56320)),rest)
            else none
        | _ => none
      else if 56320 ≤ unit ∧ unit < 57344 then none
      else some (Char.ofNat unit,rest)
  | c :: rest =>
      (([('"','"'),('\\','\\'),('/','/'),('b',Char.ofNat 8),('f',Char.ofNat 12),('n','\n'),('r','\r'),
        ('t','\t')] : List (Char × Char)).lookup c).map fun plain => (plain,rest)
  | [] => none

-- Up to the closing quote; each round reads a character at least.
def readChars : Nat → List Char → Option (List Char × List Char)
  | 0,_ => none
  | _ + 1,[] => none
  | fuel + 1,c :: rest =>
      if c = '"' then some ([],rest)
      else if c = '\\' then do
        let (c,rest) ← readEscape rest
        let (chars,rest) ← readChars fuel rest
        some (c :: chars,rest)
      else if c.toNat < 32 then none
      else do
        let (chars,rest) ← readChars fuel rest
        some (c :: chars,rest)

def isSpace (c : Char) : Bool := c = ' ' || c = '\t' || c = '\n' || c = '\r'

def skip (text : List Char) : List Char := text.dropWhile isSpace

mutual

def readValue : Nat → List Char → Option (Json × List Char)
  | 0,_ => none
  | fuel + 1,text =>
      match text with
      | 'n' :: 'u' :: 'l' :: 'l' :: rest => some (.null,rest)
      | 't' :: 'r' :: 'u' :: 'e' :: rest => some (.bool true,rest)
      | 'f' :: 'a' :: 'l' :: 's' :: 'e' :: rest => some (.bool false,rest)
      | '"' :: rest => do
          let (chars,rest) ← readChars rest.length rest
          some (.str (String.ofList chars),rest)
      | '[' :: rest =>
          match skip rest with
          | ']' :: rest => some (.list [],rest)
          | rest => do
              let (items,rest) ← readItems fuel rest
              some (.list items,rest)
      | '\x7b' :: rest =>
          match skip rest with
          | '\x7d' :: rest => some (.dict [],rest)
          | rest => do
              let (entries,rest) ← readEntries fuel rest
              some (.dict (Py.dictOf entries),rest)
      | _ => none

def readItems : Nat → List Char → Option (List Json × List Char)
  | 0,_ => none
  | fuel + 1,text => do
      let (item,rest) ← readValue fuel text
      match skip rest with
      | ',' :: rest => do
          let (items,rest) ← readItems fuel (skip rest)
          some (item :: items,rest)
      | ']' :: rest => some ([item],rest)
      | _ => none

def readEntries : Nat → List Char → Option (List (String × Json) × List Char)
  | 0,_ => none
  | fuel + 1,text =>
      match text with
      | '"' :: rest => do
          let (key,rest) ← readChars rest.length rest
          match skip rest with
          | ':' :: rest => do
              let (value,rest) ← readValue fuel (skip rest)
              match skip rest with
              | ',' :: rest => do
                  let (entries,rest) ← readEntries fuel (skip rest)
                  some ((String.ofList key,value) :: entries,rest)
              | '\x7d' :: rest => some ([(String.ofList key,value)],rest)
              | _ => none
          | _ => none
      | _ => none

end

-- `json.loads(text)`; a number is not read.
def loads (text : String) : Option Json :=
  match readValue (text.length + 1) (skip text.toList) with
  | some (value,rest) => if skip rest = [] then some value else none
  | none => none

theorem hexValue_hexDigit : ∀ n < 16, hexValue (Py.hexDigit n) = some n := by decide

theorem readHex4_hex4 {n : Nat} (small : n < 65536) (rest : List Char) :
    readHex4 ((Py.hex4 n).toList ++ rest) = some (n,rest) := by
  have digit (k : Nat) : hexValue (Py.hexDigit (k % 16)) = some (k % 16) :=
    hexValue_hexDigit _ (Nat.mod_lt k (by decide))
  simp only [Py.hex4,String.toList_ofList,List.cons_append,List.nil_append,readHex4,digit,
    Option.bind_eq_bind,Option.bind_some]
  congr 2
  omega

theorem readEscape_unit {n : Nat} (small : n < 65536) (plain : n < 55296 ∨ 57344 ≤ n) (rest : List Char) :
    readEscape ('u' :: ((Py.hex4 n).toList ++ rest)) = some (Char.ofNat n,rest) := by
  simp only [readEscape,readHex4_hex4 small,Option.bind_eq_bind,Option.bind_some]
  rw [if_neg (by omega),if_neg (by omega)]

theorem readEscape_pair {high low : Nat} (above : 55296 ≤ high ∧ high < 56320)
    (below : 56320 ≤ low ∧ low < 57344) (rest : List Char) :
    readEscape ('u' :: ((Py.hex4 high).toList ++ '\\' :: 'u' :: ((Py.hex4 low).toList ++ rest))) =
      some (Char.ofNat (65536 + (high - 55296) * 1024 + (low - 56320)),rest) := by
  simp only [readEscape,readHex4_hex4 (Nat.lt_trans above.2 (by decide)),Option.bind_eq_bind,
    Option.bind_some]
  rw [if_pos above]
  simp only [readHex4_hex4 (Nat.lt_trans below.2 (by decide)),Option.bind_some]
  rw [if_pos below]

theorem readChars_escape {text rest : List Char} {c : Char} (read : readEscape text = some (c,rest))
    (fuel : Nat) : readChars (fuel + 1) ('\\' :: text) =
      (readChars fuel rest).map fun found => (c :: found.1,found.2) := by
  simp only [readChars,read,Option.bind_eq_bind,Option.bind_some]
  cases readChars fuel rest <;> rfl

theorem readChars_plain {c : Char} (quote : c ≠ '"') (backslash : c ≠ '\\') (printed : 32 ≤ c.toNat)
    (fuel : Nat) (rest : List Char) : readChars (fuel + 1) (c :: rest) =
      (readChars fuel rest).map fun found => (c :: found.1,found.2) := by
  simp only [readChars,if_neg quote,if_neg backslash,if_neg (Nat.not_lt.mpr printed)]
  cases readChars fuel rest <;> rfl

theorem escape_toList (text : String) : ("\\u" ++ text).toList = '\\' :: 'u' :: text.toList := by
  rw [String.toList_append]
  rfl

theorem readChars_jsonChar (c : Char) (fuel : Nat) (rest : List Char) :
    readChars (fuel + 1) ((Py.jsonChar c).toList ++ rest) =
      (readChars fuel rest).map fun found => (c :: found.1,found.2) := by
  have named {n : Nat} (same : c.toNat = n) : c = Char.ofNat n := by
    rw [← same,Char.ofNat_toNat]
  unfold Py.jsonChar
  by_cases quote : c = '"'
  · subst quote
    exact readChars_escape rfl fuel
  by_cases backslash : c = '\\'
  · subst backslash
    exact readChars_escape rfl fuel
  simp only [if_neg quote,if_neg backslash]
  by_cases newline : c.toNat = 10
  · rw [if_pos newline,named newline]
    exact readChars_escape rfl fuel
  by_cases return_ : c.toNat = 13
  · rw [if_neg newline,if_pos return_,named return_]
    exact readChars_escape rfl fuel
  by_cases tab : c.toNat = 9
  · rw [if_neg newline,if_neg return_,if_pos tab,named tab]
    exact readChars_escape rfl fuel
  by_cases back : c.toNat = 8
  · rw [if_neg newline,if_neg return_,if_neg tab,if_pos back,named back]
    exact readChars_escape rfl fuel
  by_cases feed : c.toNat = 12
  · rw [if_neg newline,if_neg return_,if_neg tab,if_neg back,if_pos feed,named feed]
    exact readChars_escape rfl fuel
  rw [if_neg newline,if_neg return_,if_neg tab,if_neg back,if_neg feed]
  by_cases ascii : 32 ≤ c.toNat ∧ c.toNat < 127
  · rw [if_pos ascii,String.toList_singleton]
    exact readChars_plain quote backslash ascii.1 fuel rest
  have valid : c.toNat < 55296 ∨ 57343 < c.toNat ∧ c.toNat < 1114112 := c.valid
  rw [if_neg ascii]
  by_cases unit : c.toNat < 65536
  · have read := readEscape_unit unit (by omega) rest
    rw [Char.ofNat_toNat] at read
    rw [if_pos unit,escape_toList,List.cons_append,List.cons_append]
    exact readChars_escape read fuel
  · have high : 55296 ≤ 55296 + (c.toNat - 65536) / 1024 ∧ 55296 + (c.toNat - 65536) / 1024 < 56320 := by
      omega
    have low : 56320 ≤ 56320 + (c.toNat - 65536) % 1024 ∧ 56320 + (c.toNat - 65536) % 1024 < 57344 := by
      omega
    have read := readEscape_pair high low rest
    have back : 65536 + (55296 + (c.toNat - 65536) / 1024 - 55296) * 1024 +
        (56320 + (c.toNat - 65536) % 1024 - 56320) = c.toNat := by omega
    rw [back,Char.ofNat_toNat] at read
    rw [if_neg unit,String.append_assoc,String.append_assoc,escape_toList,String.toList_append,escape_toList,
      List.cons_append,List.cons_append,List.append_assoc,List.cons_append,List.cons_append]
    exact readChars_escape read fuel

-- With nothing written for it the closing quote would be read in its place.
theorem jsonChar_length (c : Char) : 0 < (Py.jsonChar c).toList.length := by
  apply Nat.pos_of_ne_zero
  intro empty
  have read := readChars_jsonChar c 1 ['"']
  rw [List.length_eq_zero_iff.mp empty] at read
  change some ([],[]) = some ([c],[]) at read
  cases read

-- A string up to its closing quote, whatever stands behind
theorem readChars_jsonChars {chars : List Char} {fuel : Nat}
    (enough : (String.join (chars.map Py.jsonChar)).toList.length < fuel) (rest : List Char) :
    readChars fuel ((String.join (chars.map Py.jsonChar)).toList ++ '"' :: rest) = some (chars,rest) := by
  obtain ⟨less,rfl⟩ : ∃ less, fuel = less + 1 := ⟨fuel - 1,by omega⟩
  induction chars generalizing less with
  | nil => rfl
  | cons c chars ih =>
      have some_ := jsonChar_length c
      simp only [List.map_cons,String.join_cons,String.toList_append,List.length_append] at enough
      simp only [List.map_cons,String.join_cons,String.toList_append,List.append_assoc]
      rw [readChars_jsonChar]
      obtain ⟨fewer,rfl⟩ : ∃ fewer, less = fewer + 1 := ⟨less - 1,by omega⟩
      rw [ih fewer (by omega)]
      rfl

theorem jsonString_toList (text : String) : (Py.jsonString text).toList =
    '"' :: ((String.join (text.toList.map Py.jsonChar)).toList ++ ['"']) := by
  simp [Py.jsonString]

theorem readChars_jsonString (text : String) (rest : List Char) :
    ∃ behind, (Py.jsonString text).toList ++ rest = '"' :: behind ∧
      readChars behind.length behind = some (text.toList,rest) := by
  refine ⟨(String.join (text.toList.map Py.jsonChar)).toList ++ '"' :: rest,?_,?_⟩
  · rw [jsonString_toList]
    simp
  · apply readChars_jsonChars
    simp

-- A dict has every key once, at each level.
mutual

def Keyed : Json → Prop
  | .list items => KeyedItems items
  | .dict entries => (entries.map (·.1)).Nodup ∧ KeyedEntries entries
  | _ => True

def KeyedItems : List Json → Prop
  | [] => True
  | item :: rest => item.Keyed ∧ KeyedItems rest

def KeyedEntries : List (String × Json) → Prop
  | [] => True
  | (_,value) :: rest => value.Keyed ∧ KeyedEntries rest

end

theorem dumps_head (value : Json) : ∃ c rest, value.dumps.toList = c :: rest ∧ isSpace c = false ∧
    c ≠ ']' := by
  cases value with
  | null => exact ⟨_,_,rfl,by decide,by decide⟩
  | bool value => cases value <;> exact ⟨_,_,rfl,by decide,by decide⟩
  | str value => exact ⟨_,_,by rw [dumps,jsonString_toList],by decide,by decide⟩
  | list items =>
      cases items with
      | nil => exact ⟨_,_,rfl,by decide,by decide⟩
      | cons item rest =>
          exact ⟨'[',_,by simp only [dumps,String.toList_append,List.append_assoc]; rfl,by decide,by decide⟩
  | dict entries =>
      rcases entries with _ | ⟨⟨key,value⟩,rest⟩
      · exact ⟨_,_,rfl,by decide,by decide⟩
      · exact ⟨'\x7b',_,by simp only [dumps,String.toList_append,List.append_assoc]; rfl,by decide,by decide⟩

theorem skip_dumps (value : Json) (rest : List Char) :
    skip (value.dumps.toList ++ rest) = value.dumps.toList ++ rest := by
  obtain ⟨c,behind,same,solid,_⟩ := dumps_head value
  rw [same]
  exact List.dropWhile_cons_of_neg (by rw [solid]; decide)

theorem skip_mark {mark : Char} (solid : isSpace mark = false) (rest : List Char) :
    skip (mark :: rest) = mark :: rest := List.dropWhile_cons_of_neg (by rw [solid]; decide)

theorem skip_blank (rest : List Char) : skip (' ' :: rest) = skip rest := rfl

-- What is read behind the quote, bracket or brace a value begins with
theorem readValue_string (fuel : Nat) (text : List Char) : readValue (fuel + 1) ('"' :: text) = (do
    let (chars,rest) ← readChars text.length text
    some (.str (String.ofList chars),rest)) := rfl

theorem readValue_bracket (fuel : Nat) (text : List Char) : readValue (fuel + 1) ('[' :: text) =
    (match skip text with
    | ']' :: rest => some (.list [],rest)
    | rest => do
        let (items,rest) ← readItems fuel rest
        some (.list items,rest)) := rfl

theorem readValue_brace (fuel : Nat) (text : List Char) : readValue (fuel + 1) ('\x7b' :: text) =
    (match skip text with
    | '\x7d' :: rest => some (.dict [],rest)
    | rest => do
        let (entries,rest) ← readEntries fuel rest
        some (.dict (Py.dictOf entries),rest)) := rfl

theorem readValue_list {fuel : Nat} {text behind : List Char} {items : List Json}
    (solid : skip text = text) (open_ : text.head? ≠ some ']')
    (read : readItems fuel text = some (items,behind)) :
    readValue (fuel + 1) ('[' :: text) = some (.list items,behind) := by
  rw [readValue_bracket,solid]
  split
  · exact absurd rfl open_
  · rw [read]
    rfl

theorem readValue_dict {fuel : Nat} {text behind : List Char} {entries : List (String × Json)}
    (distinct : (entries.map (·.1)).Nodup)
    (read : readEntries fuel ('"' :: text) = some (entries,behind)) :
    readValue (fuel + 1) ('\x7b' :: '"' :: text) = some (.dict entries,behind) := by
  rw [readValue_brace,skip_mark (show isSpace '"' = false by decide)]
  split
  · rename_i same
    exact absurd (List.cons.inj same).1 (by decide)
  · rw [read]
    simp only [Option.bind_eq_bind,Option.bind_some,Py.dictOf_distinct distinct]

-- What `dumps` writes is read back, whatever stands behind it, when the rounds of
-- the reader last for the text.
def ReadsValues (fuel : Nat) : Prop :=
  ∀ value : Json, value.Keyed → value.dumps.toList.length ≤ fuel → ∀ rest,
    readValue fuel (value.dumps.toList ++ rest) = some (value,rest)

def ReadsItems (fuel : Nat) : Prop :=
  ∀ (item : Json) items, item.Keyed → KeyedItems items →
    item.dumps.toList.length + (dumpItems items).toList.length < fuel → ∀ rest,
      readItems fuel (item.dumps.toList ++ ((dumpItems items).toList ++ ']' :: rest)) =
        some (item :: items,rest)

def ReadsEntries (fuel : Nat) : Prop :=
  ∀ key (value : Json) entries, value.Keyed → KeyedEntries entries →
    (Py.jsonString key).toList.length + value.dumps.toList.length +
      (dumpEntries entries).toList.length < fuel → ∀ rest,
      readEntries fuel ((Py.jsonString key).toList ++ (": ".toList ++ (value.dumps.toList ++
        ((dumpEntries entries).toList ++ '\x7d' :: rest)))) = some ((key,value) :: entries,rest)

theorem readsValues_step {fuel : Nat} (items_ : ReadsItems fuel) (entries_ : ReadsEntries fuel) :
    ReadsValues (fuel + 1) := by
  intro value keyed enough rest
  cases value with
  | null => rfl
  | bool value => cases value <;> rfl
  | str text =>
      obtain ⟨behind,split_,read⟩ := readChars_jsonString text rest
      change readValue (fuel + 1) ((Py.jsonString text).toList ++ rest) = _
      rw [split_]
      rw [readValue_string]
      simp only [read,Option.bind_eq_bind,Option.bind_some,String.ofList_toList]
  | list items =>
      cases items with
      | nil => rfl
      | cons item items =>
          obtain ⟨c,behind,starts,solid,open_⟩ := dumps_head item
          simp only [dumps,String.toList_append,List.length_append] at enough
          have brackets : "[".toList.length = 1 ∧ "]".toList.length = 1 := ⟨rfl,rfl⟩
          have read := items_ item items keyed.1 keyed.2 (by omega) rest
          have text : (Json.list (item :: items)).dumps.toList ++ rest =
              '[' :: (item.dumps.toList ++ ((dumpItems items).toList ++ ']' :: rest)) := by
            simp [dumps]
          rw [text]
          apply readValue_list (skip_dumps _ _) _ read
          rw [starts]
          exact fun same => open_ (Option.some.inj same)
  | dict entries =>
      rcases entries with _ | ⟨⟨key,value⟩,entries⟩
      · rfl
      · simp only [dumps,String.toList_append,List.length_append] at enough
        have brackets : "\x7b".toList.length = 1 ∧ "\x7d".toList.length = 1 := ⟨rfl,rfl⟩
        have read := entries_ key value entries keyed.2.1 keyed.2.2 (by omega) rest
        have text : (Json.dict ((key,value) :: entries)).dumps.toList ++ rest =
            '\x7b' :: ((Py.jsonString key).toList ++ (": ".toList ++ (value.dumps.toList ++
              ((dumpEntries entries).toList ++ '\x7d' :: rest)))) := by
          simp [dumps]
        rw [text]
        rw [jsonString_toList,List.cons_append] at read ⊢
        exact readValue_dict keyed.1 read

theorem readsItems_step {fuel : Nat} (values : ReadsValues fuel) (items_ : ReadsItems fuel) :
    ReadsItems (fuel + 1) := by
  intro item items keyed others enough rest
  simp only [readItems]
  rw [values item keyed (by omega)]
  cases items with
  | nil => rfl
  | cons second items =>
      simp only [dumpItems,String.toList_append,List.length_append] at enough
      have comma : ", ".toList.length = 2 := rfl
      have text : (dumpItems (second :: items)).toList ++ ']' :: rest =
          ',' :: ' ' :: (second.dumps.toList ++ ((dumpItems items).toList ++ ']' :: rest)) := by
        simp [dumpItems]
      rw [text]
      simp only [Option.bind_eq_bind,Option.bind_some,skip_mark (show isSpace ',' = false by decide),
        skip_blank,skip_dumps]
      rw [items_ second items others.1 others.2 (by omega)]
      rfl

theorem readsEntries_step {fuel : Nat} (values : ReadsValues fuel) (entries_ : ReadsEntries fuel) :
    ReadsEntries (fuel + 1) := by
  intro key value entries keyed others enough rest
  obtain ⟨behind,split_,read⟩ := readChars_jsonString key (": ".toList ++ (value.dumps.toList ++
    ((dumpEntries entries).toList ++ '\x7d' :: rest)))
  rw [split_]
  simp only [readEntries,read,Option.bind_eq_bind,Option.bind_some,show ": ".toList = [':',' '] from rfl,
    List.cons_append,List.nil_append,skip_mark (show isSpace ':' = false by decide),skip_blank,
    skip_dumps]
  rw [values value keyed (by omega)]
  rcases entries with _ | ⟨⟨second,other⟩,entries⟩
  · simp [dumpEntries,skip_mark (show isSpace '\x7d' = false by decide)]
  · simp only [dumpEntries,String.toList_append,List.length_append] at enough
    have comma : ", ".toList.length = 2 := rfl
    have text : (dumpEntries ((second,other) :: entries)).toList ++ '\x7d' :: rest =
        ',' :: ' ' :: ((Py.jsonString second).toList ++ (": ".toList ++ (other.dumps.toList ++
          ((dumpEntries entries).toList ++ '\x7d' :: rest)))) := by
      simp [dumpEntries]
    have again := entries_ second other entries others.1 others.2 (by omega) rest
    rw [text]
    simp only [Option.bind_some,skip_mark (show isSpace ',' = false by decide),skip_blank]
    rw [jsonString_toList,List.cons_append] at again ⊢
    simp only [skip_mark (show isSpace '"' = false by decide),again,Option.bind_some,
      String.ofList_toList]

theorem reads (fuel : Nat) : ReadsValues fuel ∧ ReadsItems fuel ∧ ReadsEntries fuel := by
  induction fuel with
  | zero =>
      refine ⟨?_,?_,?_⟩
      · intro value keyed enough rest
        obtain ⟨c,behind,starts,_⟩ := dumps_head value
        rw [starts] at enough
        exact absurd enough (Nat.not_succ_le_zero _)
      · exact fun item items keyed others enough rest => absurd enough (Nat.not_lt_zero _)
      · exact fun key value entries keyed others enough rest => absurd enough (Nat.not_lt_zero _)
  | succ fuel ih =>
      exact ⟨readsValues_step ih.2.1 ih.2.2,readsItems_step ih.1 ih.2.1,readsEntries_step ih.1 ih.2.2⟩

-- `json.loads(json.dumps(value))`
theorem loads_dumps {value : Json} (keyed : value.Keyed) : loads value.dumps = some value := by
  have read := (reads (value.dumps.length + 1)).1 value keyed
    (by rw [String.length_toList]; omega) []
  have solid := skip_dumps value []
  rw [List.append_nil] at read solid
  unfold loads
  rw [solid,read]
  rfl

theorem dumps_inj {one two : Json} (first : one.Keyed) (second : two.Keyed) :
    one.dumps = two.dumps ↔ one = two := by
  constructor
  · intro same
    have read := loads_dumps first
    rw [same,loads_dumps second] at read
    exact (Option.some.inj read).symm
  · rintro rfl
    rfl

end Json

end ParcelPilot

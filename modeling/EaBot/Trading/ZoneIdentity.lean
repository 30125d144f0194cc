import EaBot.Foundation.Numerals
import EaBot.Trading.EntryDetectors
import Mathlib.Data.Set.Function

/-!
# The identity of a zone

A zone is named by its symbol, its time frame, its direction, its kind and a digest of a text
that ends with the index of its origin candle.  The index counts from the first candle of the
window that the detectors look at.  When the window moves on by one candle, the same origin
candle has another index, and the same zone another name.
-/

namespace EaBot.Trading

open Foundation.Text

/-- The name of a direction. -/
def ZoneDirection.text : ZoneDirection → String
  | .long => "LONG"
  | .short => "SHORT"

/-- The name of a kind. -/
def ZoneType.text : ZoneType → String
  | .orderBlock => "ORDER_BLOCK"
  | .fvg => "FVG"

/-- A text, or another one for the empty text. -/
def orText (text other : String) : String :=
  if text = "" then other else text

/-- The part of the name of a zone that can be read, with a separator. -/
def zoneFields (separator symbol timeframe direction zoneType : String) : String :=
  upper (orText symbol "UNK") ++ separator ++
    upper (orText timeframe "M15") ++ separator ++
    upper direction ++ separator ++ upper zoneType ++ separator

/-- The text that is digested. -/
def zoneRaw (symbol timeframe direction zoneType : String) (anchorPrice : ℚ)
    (anchorIndex : Nat) : String :=
  zoneFields "|" symbol timeframe direction zoneType ++
    fixedSigned 5 anchorPrice ++ "|" ++ toString anchorIndex

/-- The name of a zone, for a function that writes digests in hexadecimal digits. -/
def zoneIdentity (hexdigest : String → String) (symbol timeframe direction zoneType : String)
    (anchorPrice : ℚ) (anchorIndex : Nat) : String :=
  zoneFields "-" symbol timeframe direction zoneType ++
    String.ofList ((hexdigest
      (zoneRaw symbol timeframe direction zoneType anchorPrice anchorIndex)).toList.take 8)

/-- The text that is digested for a zone that a detector has found. -/
def Zone.raw (symbol timeframe : String) (zone : Zone) : String :=
  zoneRaw symbol timeframe zone.direction.text zone.zoneType.text ((zone.top + zone.bottom) / 2)
    zone.originIndex

/-- The name that a detector gives to a zone. -/
def Zone.zoneId (hexdigest : String → String) (symbol timeframe : String) (zone : Zone) :
    String :=
  zoneIdentity hexdigest symbol timeframe zone.direction.text zone.zoneType.text
    ((zone.top + zone.bottom) / 2) zone.originIndex

/-- The candles from an index on, at most so many. -/
def Candles.window (history : Candles) (start length : Nat) : Candles :=
  ⟨(history.opens.drop start).take length, (history.highs.drop start).take length,
    (history.lows.drop start).take length, (history.closes.drop start).take length⟩

/-- The zones that both detectors report. -/
def reported (config : ZoneConfig) (atr : ℚ) (candles : Candles) : List Zone :=
  detectOrderBlocks config atr candles ++ detectFvgs config atr candles.highs candles.lows

/-! ## What a name tells -/

/-- The part of a text after its last separator is determined by the text. -/
theorem last_field_eq {separator : Char} {first second field other : List Char}
    (clean : separator ∉ field) (cleanOther : separator ∉ other)
    (same : first ++ separator :: field = second ++ separator :: other) : field = other := by
  have lastField : ∀ {before after : List Char}, separator ∉ after →
      (before ++ separator :: after).reverse.takeWhile (fun char => char != separator) =
        after.reverse := by
    intro before after clean
    have solid : ∀ char ∈ after.reverse, (char != separator) = true := by
      intro char member
      rw [bne_iff_ne]
      rintro rfl
      exact clean (List.mem_reverse.mp member)
    rw [List.reverse_append, List.reverse_cons, List.append_assoc,
      List.takeWhile_append_of_pos solid]
    simp
  have reversed : field.reverse = other.reverse := by
    rw [← lastField clean, same, lastField cleanOther]
  exact List.reverse_injective reversed

theorem not_mem_toString (index : Nat) : '|' ∉ (toString index).toList := by
  intro member
  have digit := isDigit_toDigits (Nat.toList_repr ▸ member)
  exact absurd digit (by decide)

theorem toString_index_inj {index other : Nat} (same : toString index = toString other) :
    index = other := by
  have chars : Nat.toDigits 10 index = Nat.toDigits 10 other := by
    rw [← Nat.toList_repr, ← Nat.toList_repr]
    exact congrArg String.toList same
  have values := congrArg natValue chars
  rw [natValue_toDigits, natValue_toDigits] at values
  exact Option.some.inj values

theorem toList_zoneRaw (symbol timeframe direction zoneType : String) (anchorPrice : ℚ)
    (anchorIndex : Nat) :
    (zoneRaw symbol timeframe direction zoneType anchorPrice anchorIndex).toList =
      (zoneFields "|" symbol timeframe direction zoneType ++ fixedSigned 5 anchorPrice).toList ++
        '|' :: (toString anchorIndex).toList := by
  rw [zoneRaw, String.toList_append, String.toList_append, List.append_assoc]
  rfl

/-- The text that is digested tells the index of the origin candle. -/
theorem Zone.originIndex_eq_of_raw {symbol timeframe : String} {zone other : Zone}
    (same : zone.raw symbol timeframe = other.raw symbol timeframe) :
    zone.originIndex = other.originIndex := by
  have chars := congrArg String.toList same
  rw [Zone.raw, Zone.raw, toList_zoneRaw, toList_zoneRaw] at chars
  have fields := last_field_eq (not_mem_toString _) (not_mem_toString _) chars
  exact toString_index_inj (String.toList_inj.mp fields)

/-- The end of a name is the digest. -/
theorem Zone.digest_eq_of_zoneId {hexdigest : String → String} {symbol timeframe : String}
    {zone other : Zone} (wide : ∀ text, (hexdigest text).length = 40)
    (same : zone.zoneId hexdigest symbol timeframe = other.zoneId hexdigest symbol timeframe) :
    (hexdigest (zone.raw symbol timeframe)).toList.take 8 =
      (hexdigest (other.raw symbol timeframe)).toList.take 8 := by
  have prefixLength : ∀ text, ((hexdigest text).toList.take 8).length = 8 := by
    intro text
    rw [List.length_take, String.length_toList, wide]
    rfl
  have chars := congrArg String.toList same
  unfold Zone.zoneId zoneIdentity at chars
  rw [String.toList_append, String.toList_append, String.toList_ofList,
    String.toList_ofList] at chars
  unfold Zone.raw
  exact List.append_inj_right' chars (by rw [prefixLength, prefixLength])

/-- Among texts without collisions, a name tells the index of the origin candle. -/
theorem Zone.originIndex_eq_of_zoneId {hexdigest : String → String} {symbol timeframe : String}
    {texts : Set String} {zone other : Zone} (wide : ∀ text, (hexdigest text).length = 40)
    (injective : Set.InjOn (fun text => (hexdigest text).toList.take 8) texts)
    (first : zone.raw symbol timeframe ∈ texts) (second : other.raw symbol timeframe ∈ texts)
    (same : zone.zoneId hexdigest symbol timeframe = other.zoneId hexdigest symbol timeframe) :
    zone.originIndex = other.originIndex :=
  Zone.originIndex_eq_of_raw (injective first second (Zone.digest_eq_of_zoneId wide same))

/-! ## Windows that move on -/

/-- The texts that are digested for the reports on a window and on the next one. -/
def digestedTexts (symbol timeframe : String) (config : ZoneConfig) (atr nextAtr : ℚ)
    (history : Candles) (start length : Nat) : Set String :=
  {text | ∃ zone ∈ reported config atr (history.window start length) ++
      reported config nextAtr (history.window (start + 1) length),
    text = zone.raw symbol timeframe}

/-- A zone of one window and a zone of the next one are the same structure: the same candle of
the history, direction and kind. -/
structure SameStructure (start : Nat) (zone next : Zone) : Prop where
  origin : start + zone.originIndex = start + 1 + next.originIndex
  direction : next.direction = zone.direction
  zoneType : next.zoneType = zone.zoneType

/-- A zone that is reported again after the window has moved on has another name, and the zones
of two candles of one window have different names. -/
theorem zoneId_moves_with_window (hexdigest : String → String) (symbol timeframe : String)
    (config : ZoneConfig) (atr nextAtr : ℚ) (history : Candles) (start length : Nat)
    (wide : ∀ text, (hexdigest text).length = 40)
    (injective : Set.InjOn (fun text => (hexdigest text).toList.take 8)
      (digestedTexts symbol timeframe config atr nextAtr history start length)) :
    (∀ zone ∈ reported config atr (history.window start length),
      ∀ next ∈ reported config nextAtr (history.window (start + 1) length),
        SameStructure start zone next →
          next.zoneId hexdigest symbol timeframe ≠ zone.zoneId hexdigest symbol timeframe) ∧
    ∀ zone ∈ reported config atr (history.window start length),
      ∀ other ∈ reported config atr (history.window start length),
        zone.originIndex ≠ other.originIndex →
          zone.zoneId hexdigest symbol timeframe ≠ other.zoneId hexdigest symbol timeframe := by
  have here : ∀ zone ∈ reported config atr (history.window start length),
      zone.raw symbol timeframe ∈
        digestedTexts symbol timeframe config atr nextAtr history start length :=
    fun zone member => ⟨zone, List.mem_append_left _ member, rfl⟩
  have later : ∀ next ∈ reported config nextAtr (history.window (start + 1) length),
      next.raw symbol timeframe ∈
        digestedTexts symbol timeframe config atr nextAtr history start length :=
    fun next member => ⟨next, List.mem_append_right _ member, rfl⟩
  constructor
  · intro zone reportedFirst next reportedNext structure_ same
    have index := Zone.originIndex_eq_of_zoneId wide injective (later next reportedNext)
      (here zone reportedFirst) same
    have origin := structure_.origin
    omega
  · intro zone member other otherMember apart same
    exact apart (Zone.originIndex_eq_of_zoneId wide injective (here zone member)
      (here other otherMember) same)

/-- Texts and their digests by the algorithm that the names are made with. -/
def sha1Table : List (String × String) :=
  [("XAUUSD|M15|LONG|ORDER_BLOCK|9.50000|2", "aac96d304788d9b804333f0fabe37ac16d169ff7"),
    ("XAUUSD|M15|SHORT|ORDER_BLOCK|9.50000|3", "3d86c6064484abe7d4c2883315753cb1d11e4218"),
    ("XAUUSD|M15|LONG|ORDER_BLOCK|9.50000|4", "9bf0c56fa6d99439bcfde032f145d964b64047a8"),
    ("XAUUSD|M15|LONG|ORDER_BLOCK|9.50000|1", "8211af114ea096348bf3238445fc284ee5e5a5f9"),
    ("XAUUSD|M15|SHORT|ORDER_BLOCK|9.50000|2", "9abc790e10da95187c0e38ab0021dced7135cba0"),
    ("XAUUSD|M15|LONG|ORDER_BLOCK|9.50000|3", "f1d42d3455445b3a224b95a271966131e375f16e")]

/-- The digest of a text that the table has, and a default for the other ones. -/
def sha1Excerpt (text : String) : String :=
  ((sha1Table.find? fun entry => entry.1 = text).map Prod.snd).getD
    "da39a3ee5e6b4b0d3255bfef95601890afd80709"

/-- Seven candles: three order blocks with the same band, then a candle without a body. -/
def threeBlocks : Candles where
  opens := [10, 10, 10, 9, 10, 9, 10]
  highs := [11, 11, 21 / 2, 21 / 2, 21 / 2, 21 / 2, 11]
  lows := [9, 9, 17 / 2, 17 / 2, 17 / 2, 17 / 2, 9]
  closes := [10, 10, 9, 21 / 2, 9, 21 / 2, 10]

theorem length_sha1Excerpt (text : String) : (sha1Excerpt text).length = 40 := by
  have digests : ∀ entry ∈ sha1Table, entry.2.length = 40 := by decide +kernel
  unfold sha1Excerpt
  cases found : sha1Table.find? fun entry => entry.1 = text with
  | none => rfl
  | some entry => exact digests entry (List.mem_of_find?_eq_some found)

theorem sha1Excerpt_injOn_threeBlocks :
    Set.InjOn (fun text => (sha1Excerpt text).toList.take 8)
      (digestedTexts "XAUUSD" "M15" ZoneConfig.default_ 2 2 threeBlocks 0 6) := by
  have texts : (reported ZoneConfig.default_ 2 (threeBlocks.window 0 6) ++
      reported ZoneConfig.default_ 2 (threeBlocks.window (0 + 1) 6)).map
        (Zone.raw "XAUUSD" "M15") = sha1Table.map Prod.fst := by
    decide +kernel
  have apart : ∀ first ∈ sha1Table.map Prod.fst, ∀ second ∈ sha1Table.map Prod.fst,
      (sha1Excerpt first).toList.take 8 = (sha1Excerpt second).toList.take 8 →
        first = second := by
    decide +kernel
  have listed : ∀ text ∈ digestedTexts "XAUUSD" "M15" ZoneConfig.default_ 2 2 threeBlocks 0 6,
      text ∈ sha1Table.map Prod.fst := by
    rintro text ⟨zone, member, rfl⟩
    rw [← texts]
    exact List.mem_map_of_mem member
  exact fun first member second memberSecond =>
    apart first (listed first member) second (listed second memberSecond)

/-- The order block of the candle with index two, as the first window has it. -/
def firstBlock : Zone :=
  ⟨.long, .orderBlock, 21 / 2, 17 / 2, 17 / 2, 2, some 3⟩

/-- The same order block, as the next window has it. -/
def firstBlockMoved : Zone :=
  ⟨.long, .orderBlock, 21 / 2, 17 / 2, 17 / 2, 1, some 2⟩

theorem zoneId_moves_with_window_threeBlocks :
    firstBlockMoved.zoneId sha1Excerpt "XAUUSD" "M15" ≠
        firstBlock.zoneId sha1Excerpt "XAUUSD" "M15" ∧
      ∀ zone ∈ reported ZoneConfig.default_ 2 (threeBlocks.window 0 6),
        ∀ other ∈ reported ZoneConfig.default_ 2 (threeBlocks.window 0 6),
          zone.originIndex ≠ other.originIndex →
            zone.zoneId sha1Excerpt "XAUUSD" "M15" ≠ other.zoneId sha1Excerpt "XAUUSD" "M15" := by
  obtain ⟨moved, apart⟩ := zoneId_moves_with_window sha1Excerpt "XAUUSD" "M15"
    ZoneConfig.default_ 2 2 threeBlocks 0 6 length_sha1Excerpt sha1Excerpt_injOn_threeBlocks
  exact ⟨moved firstBlock (by decide +kernel) firstBlockMoved (by decide +kernel)
    ⟨by decide, rfl, rfl⟩, apart⟩

/-- One candle, two names: the order block is reported on both windows. -/
theorem order_block_renamed :
    firstBlock ∈ reported ZoneConfig.default_ 2 (threeBlocks.window 0 6) ∧
      firstBlockMoved ∈ reported ZoneConfig.default_ 2 (threeBlocks.window 1 6) ∧
      SameStructure 0 firstBlock firstBlockMoved ∧
      firstBlockMoved.zoneId sha1Excerpt "XAUUSD" "M15" ≠
        firstBlock.zoneId sha1Excerpt "XAUUSD" "M15" ∧
      firstBlock.zoneId sha1Excerpt "XAUUSD" "M15" = "XAUUSD-M15-LONG-ORDER_BLOCK-aac96d30" ∧
      firstBlockMoved.zoneId sha1Excerpt "XAUUSD" "M15" =
        "XAUUSD-M15-LONG-ORDER_BLOCK-8211af11" := by
  refine ⟨by decide +kernel, by decide +kernel, ⟨by decide, rfl, rfl⟩, ?_, ?_, ?_⟩
  · decide +kernel
  · decide +kernel
  · decide +kernel

end EaBot.Trading

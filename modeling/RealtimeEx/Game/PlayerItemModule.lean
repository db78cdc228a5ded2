import Mathlib.Algebra.Order.Ring.Int
import RealtimeEx.Db.DbCommandHandler
import RealtimeEx.Db.MessageText
import RealtimeEx.Db.NumberText
import RealtimeEx.Support.StdContainers

/-!
# The items of a player in the database

`CPlayerItemModule` keeps the items of a player.  A backup writes them into a row of the
table `player_item`, and the next time the player enters they are loaded from it.

The items are one column of the row, a text that the protobuf library makes of a
sub-message and reads back.  A sub-message to which nothing was added is not set, and an
update leaves the columns alone whose fields are not set.
-/

namespace RealtimeEx.Game

open RealtimeEx.Db

/-! ## The module -/

/-- `player_item_data`: the id of an item and its count. -/
abbrev SItemData := UInt32 × UInt32

/-- What the module tells the client and the other modules. -/
inductive PlayerItemOutput
  | playerItemNotify (data : List SItemData)
  | addPlayerItemNotify (nID nDelta nCount : UInt32)
  | delPlayerItemNotify (nID nDelta nCount : UInt32)
  | addItemEvent (nItemID nCount : UInt32)
  | delItemEvent (nItemID nCount : UInt32)
  deriving DecidableEq

/-- `CPlayerItemModule`.  `bLoadDataError` says whether it has called
`setModuleLoadDataError` of its player. -/
structure CPlayerItemModule where
  nPlayerID : UInt64
  mapItem : StdMap UInt32 UInt32 := ∅
  bLoadDataError : Bool := false
  outputs : List PlayerItemOutput := []

namespace CPlayerItemModule

variable (item : CPlayerItemModule)

/-- `getItemCount`. -/
def getItemCount (nID : UInt32) : UInt32 :=
  (item.mapItem[nID]?).getD 0

/-- `addItem`; `config` says which items `CItemStaticConfig` knows. -/
def addItem (config : UInt32 → Bool) (nID nCount : UInt32) : CPlayerItemModule :=
  if config nID = false then item
  else
    let nTotalCount := item.getItemCount nID + nCount
    { item with
      mapItem := item.mapItem.insert nID nTotalCount
      outputs := item.outputs ++
        [.addPlayerItemNotify nID nCount nTotalCount, .addItemEvent nID nCount] }

/-- `delItem`. -/
def delItem (nID nCount : UInt32) : CPlayerItemModule :=
  match item.mapItem[nID]? with
  | none => item
  | some nTotalCount =>
      if nTotalCount ≤ nCount then
        { item with
          mapItem := item.mapItem.erase nID
          outputs := item.outputs ++
            [.delPlayerItemNotify nID nCount 0, .delItemEvent nID nCount] }
      else
        { item with
          mapItem := item.mapItem.insert nID (nTotalCount - nCount)
          outputs := item.outputs ++
            [.delPlayerItemNotify nID nCount (nTotalCount - nCount), .delItemEvent nID nCount] }

/-- `onPlayerLogin`. -/
def onPlayerLogin : CPlayerItemModule :=
  { item with outputs := item.outputs ++ [.playerItemNotify item.mapItem.toList] }

/-- The calls that change the items. -/
inductive Action
  | addItem (nID nCount : UInt32)
  | delItem (nID nCount : UInt32)
  deriving DecidableEq

def step (config : UInt32 → Bool) : Action → CPlayerItemModule
  | .addItem nID nCount => item.addItem config nID nCount
  | .delItem nID nCount => item.delItem nID nCount

/-- A new player goes through a series of calls. -/
def run (config : UInt32 → Bool) (nPlayerID : UInt64) (actions : List Action) :
    CPlayerItemModule :=
  actions.foldl (fun item action => item.step config action) { nPlayerID }

@[simp] theorem nPlayerID_step (config : UInt32 → Bool) (action : Action) :
    (item.step config action).nPlayerID = item.nPlayerID := by
  cases action with
  | addItem nID nCount =>
      show (item.addItem config nID nCount).nPlayerID = _
      unfold addItem
      split
      · rfl
      · rfl
  | delItem nID nCount =>
      show (item.delItem nID nCount).nPlayerID = _
      unfold delItem
      split
      · rfl
      · split
        · rfl
        · rfl

theorem nPlayerID_run (config : UInt32 → Bool) (nPlayerID : UInt64) (actions : List Action) :
    (run config nPlayerID actions).nPlayerID = nPlayerID := by
  unfold run
  induction actions using List.reverseRecOn with
  | nil => rfl
  | append_singleton actions action ih =>
      rw [List.foldl_append, List.foldl_cons, List.foldl_nil, nPlayerID_step, ih]

end CPlayerItemModule

/-! ## The messages -/

/-- The field `data` of `player_item`. -/
def dataField : FieldDescriptor where
  name := "data"
  type := .message
  serializeType := .json
  required := false

/-- `player_item`. -/
def playerItem : Descriptor where
  typeName := "proto.db.player_item"
  fields :=
    [{ name := "player_id", type := .uint64, serializeType := .unknown, required := true },
      dataField]
  primaryKey := "player_id"

def playerItemSchema : Schema where
  descriptor name := if name = "proto.db.player_item" then some playerItem else none
  setOf name := if name = "proto.db.player_item_set" then some playerItem else none

/-- What the module needs of the protobuf library: the items of a sub-message
`player_item_data_wrap`, given in its serialized form, the serialized form of a list of
items, and the text that is made of it and read back. -/
structure ItemFormat where
  fmt : TextFormat
  items : Bytes → List SItemData
  serialize : List SItemData → Bytes
  items_nil : items [] = []
  items_serialize : ∀ data, items (serialize data) = data
  messageText_serialize : ∀ data, ∃ text, text ≠ [] ∧
    fmt.messageText dataField (serialize data) = some text ∧
    fmt.textMessage dataField text = some (serialize data)

namespace ItemFormat

variable (F : ItemFormat)

/-- The sub-message `data()`, which is empty as long as it is not set. -/
def wrap (m : Message) : Bytes :=
  match m.field "data" with
  | some (.message wrap) => wrap
  | _ => []

/-- `mutable_data()->add_data()`. -/
def addData (m : Message) (data : SItemData) : Message :=
  m.setField "data" (.message (F.serialize (F.items (wrap m) ++ [data])))

/-- The message that `onBackup` sends. -/
def backupMessage (item : CPlayerItemModule) : Message :=
  item.mapItem.toList.foldl F.addData
    ((Message.empty playerItem).setField "player_id" (.uint64 item.nPlayerID))

/-- The callback of `onLoadData`. -/
def onLoadData (item : CPlayerItemModule) (pMessage : Option DbResponse) (nErrorCode : UInt32) :
    CPlayerItemModule :=
  if nErrorCode = eDBRC_EmptyRecordset then item
  else
    match pMessage with
    | some (.record m) =>
        if m.descriptor = playerItem then
          { item with
            mapItem := (F.items (wrap m)).foldl (fun mapItem data =>
              mapItem.insert data.1 data.2) item.mapItem }
        else
          { item with bLoadDataError := true }
    | _ => { item with bLoadDataError := true }

end ItemFormat

/-! ## The table -/

/-- The table `player_item`: the column `data` of each row. -/
abbrev PlayerItemTable := StdMap UInt64 (Option Bytes)

/-- The column `data` is a `text`. -/
def maxText : ℕ := 65535

/-- The answer to a statement that fails. -/
def failed (nError : UInt32) : MysqlReply where
  realQuery := some nError
  storeResult := .error nError
  nextResult := []
  affectedRows := 0

/-- The answer to a statement that changes one row. -/
def changed : MysqlReply where
  realQuery := none
  storeResult := .error eMET_OK
  nextResult := []
  affectedRows := 1

/-- The answer to a statement that selects rows. -/
def selected (rows : List (List (Option Bytes))) : MysqlReply where
  realQuery := none
  storeResult := .ok { fieldName := ["player_id", "data"], rows }
  nextResult := []
  affectedRows := rows.length.toUInt64

/-- The server with the table `player_item`.  It gets the statements with their structure,
so nothing has to be escaped. -/
def playerItemServer : MysqlClient PlayerItemTable where
  escape := id
  query statement table :=
    match statement with
    | .upsert szTableName vecFieldInfo =>
        if szTableName ≠ "player_item" then (failed 1146, table)
        else
          match (fieldText vecFieldInfo "player_id").bind (textNat 64) with
          | none => (failed 1364, table)
          | some nPlayerID =>
              match fieldText vecFieldInfo "data" with
              | none => (changed, table.alter (UInt64.ofNat nPlayerID) fun row => row.or (some none))
              | some text =>
                  -- a longer text is refused
                  if text.length ≤ maxText then
                    (changed, table.insert (UInt64.ofNat nPlayerID) (some text))
                  else
                    (failed 1406, table)
    | .select szTableName szPrimaryName nPlayerID =>
        if szTableName ≠ "player_item" ∨ szPrimaryName ≠ "player_id" then (failed 1146, table)
        else
          match table[nPlayerID]? with
          | none => (selected [], table)
          | some data => (selected [[some (natText nPlayerID.toNat), data]], table)
    | _ => (failed 1146, table)

namespace ItemFormat

variable (F : ItemFormat)

def env : HandlerEnv PlayerItemTable where
  fmt := F.fmt
  schema := playerItemSchema
  client := playerItemServer

/-- `onBackup`: the message is sent as an update. -/
def onBackup (item : CPlayerItemModule) (conn : DbConnection PlayerItemTable) :
    DbConnection PlayerItemTable :=
  (updateHandler F.env (F.backupMessage item) conn).2

/-- `onLoadData`: the row is selected, and the callback gets the answer. -/
def load (item : CPlayerItemModule) (conn : DbConnection PlayerItemTable) : CPlayerItemModule :=
  F.onLoadData item (selectHandler F.env item.nPlayerID "player_item" conn).2.1
    (selectHandler F.env item.nPlayerID "player_item" conn).1

/-- A backup, and a load into the module of a new object of the player, restore the
items. -/
def Restores (item : CPlayerItemModule) (conn : DbConnection PlayerItemTable) : Prop :=
  (F.load { nPlayerID := item.nPlayerID } (F.onBackup item conn)).mapItem = item.mapItem ∧
    (F.load { nPlayerID := item.nPlayerID } (F.onBackup item conn)).bLoadDataError = false

/-- The sub-message that the text of the column `data` stands for, if it can be read. -/
def columnWrap (szValue : Bytes) : Option Bytes :=
  if szValue = [] then some [] else F.fmt.textMessage dataField szValue

/-- The items that a row stands for. -/
def rowItems (row : Option (Option Bytes)) : Option (StdMap UInt32 UInt32) :=
  match row with
  | none => some ∅
  | some data =>
      (F.columnWrap (data.getD [])).map fun wrap =>
        (F.items wrap).foldl (fun mapItem data => mapItem.insert data.1 data.2) ∅

theorem rowItems_some (data : Option Bytes) :
    F.rowItems (some data) = (F.columnWrap (data.getD [])).map fun wrap =>
      (F.items wrap).foldl (fun mapItem data => mapItem.insert data.1 data.2) ∅ := rfl

/-- The items make a text that fits the column. -/
def Fits (mapItem : StdMap UInt32 UInt32) : Prop :=
  ∀ text, F.fmt.messageText dataField (F.serialize mapItem.toList) = some text →
    text.length ≤ maxText

/-! ## The backup -/

variable {F} {item : CPlayerItemModule} {conn : DbConnection PlayerItemTable}

theorem wrap_setField (m : Message) (b : Bytes) :
    wrap (m.setField "data" (.message b)) = b := by
  simp [wrap, Message.setField]

theorem setField_setField (m : Message) (v w : FieldValue) :
    (m.setField "data" v).setField "data" w = m.setField "data" w := by
  simp [Message.setField]

/-- The loop of `onBackup` sets the field `data` in its first round. -/
theorem foldl_addData (m : Message) (xs : List SItemData) :
    xs.foldl F.addData m =
      if xs = [] then m
      else m.setField "data" (.message (F.serialize (F.items (wrap m) ++ xs))) := by
  induction xs generalizing m with
  | nil => rfl
  | cons x xs ih =>
      rw [List.foldl_cons, ih, if_neg (List.cons_ne_nil x xs)]
      unfold addData
      rw [wrap_setField, F.items_serialize, setField_setField, List.append_assoc,
        List.singleton_append]
      split
      · rename_i hxs
        rw [hxs]
      · rfl

/-- The message of a player without its items. -/
def keyMessage (nPlayerID : UInt64) : Message :=
  (Message.empty playerItem).setField "player_id" (.uint64 nPlayerID)

theorem items_wrap_keyMessage (nPlayerID : UInt64) :
    F.items (wrap (keyMessage nPlayerID)) = [] := by
  have hwrap : wrap (keyMessage nPlayerID) = [] := by
    simp [wrap, keyMessage, Message.setField, Message.empty]
  rw [hwrap, F.items_nil]

theorem backupMessage_of_empty (h : item.mapItem.toList = []) :
    F.backupMessage item = keyMessage item.nPlayerID := by
  unfold backupMessage
  rw [h]
  rfl

theorem backupMessage_of_ne_empty (h : item.mapItem.toList ≠ []) :
    F.backupMessage item = (keyMessage item.nPlayerID).setField "data"
      (.message (F.serialize item.mapItem.toList)) := by
  unfold backupMessage
  rw [foldl_addData, if_neg h]
  have hitems := items_wrap_keyMessage (F := F) item.nPlayerID
  unfold keyMessage at hitems ⊢
  rw [hitems, List.nil_append]

theorem getMessageFieldInfos_keyMessage (nPlayerID : UInt64) :
    getMessageFieldInfos F.fmt (keyMessage nPlayerID) =
      some [⟨"player_id", natText nPlayerID.toNat, false⟩] := by
  simp [getMessageFieldInfos, getFieldInfos, keyMessage, playerItem, dataField,
    Message.setField, Message.empty, getFieldInfo, getBasicTypeFieldValue]

theorem getMessageFieldInfos_data {nPlayerID : UInt64} {b text : Bytes}
    (htext : F.fmt.messageText dataField b = some text) :
    getMessageFieldInfos F.fmt ((keyMessage nPlayerID).setField "data" (.message b)) =
      some [⟨"player_id", natText nPlayerID.toNat, false⟩, ⟨"data", text, true⟩] := by
  unfold dataField at htext
  simp [getMessageFieldInfos, getFieldInfos, keyMessage, playerItem, dataField,
    Message.setField, Message.empty, getFieldInfo, getBasicTypeFieldValue, htext]

theorem textNat_playerID (nPlayerID : UInt64) :
    textNat 64 (natText nPlayerID.toNat) = some nPlayerID.toNat :=
  textNat_natText nPlayerID.toNat_lt

/-- An update of the table carries out its statement. -/
theorem mysql_updateHandler {m : Message} {fields : List FieldInfo}
    (hm : m.descriptor = playerItem) (hfields : getMessageFieldInfos F.fmt m = some fields) :
    (updateHandler F.env m conn).2.mysql =
      (playerItemServer.query (.upsert "player_item" fields) conn.mysql).2 := by
  have htable : getTableNameByMessageName m.descriptor.typeName = some "player_item" := by
    rw [hm]
    exact getTableNameByMessageName_getMessageNameByTableName "player_item"
  have hinfos : getMessageFieldInfos F.env.fmt m = some fields := hfields
  unfold updateHandler executeFields
  rw [htable, hinfos]
  dsimp only
  split
  · rfl
  · split
    · rfl
    · rfl

/-- A backup without items adds the row, or leaves it as it is. -/
theorem getElem?_onBackup_of_empty (h : item.mapItem.toList = []) :
    (F.onBackup item conn).mysql[item.nPlayerID]? =
      (conn.mysql[item.nPlayerID]?).or (some none) := by
  unfold onBackup
  rw [backupMessage_of_empty h,
    mysql_updateHandler rfl (getMessageFieldInfos_keyMessage item.nPlayerID)]
  simp [playerItemServer, fieldText, textNat_playerID]

/-- A backup of items replaces the text of the row if the new one fits. -/
theorem getElem?_onBackup_of_ne_empty (h : item.mapItem.toList ≠ []) {text : Bytes}
    (htext : F.fmt.messageText dataField (F.serialize item.mapItem.toList) = some text) :
    (F.onBackup item conn).mysql[item.nPlayerID]? =
      if text.length ≤ maxText then some (some text) else conn.mysql[item.nPlayerID]? := by
  unfold onBackup
  rw [backupMessage_of_ne_empty h, mysql_updateHandler rfl (getMessageFieldInfos_data htext)]
  simp only [playerItemServer, fieldText, List.find?_cons]
  simp [textNat_playerID]
  split
  · simp
  · rfl

/-! ## The load -/

theorem setFieldValue_data (szValue : Bytes) :
    setFieldValue F.fmt dataField szValue = (F.columnWrap szValue).map .message := by
  unfold setFieldValue columnWrap
  rw [show dataField.type = FieldType.message from rfl, if_pos rfl]
  show (if szValue = [] then some (FieldValue.message []) else _) = _
  split
  · rfl
  · rfl

/-- A row as a message. -/
theorem fillRow_playerItem {r : Recordset} {nPlayerID : UInt64} {data : Option Bytes}
    (hname : r.fieldName = ["player_id", "data"])
    (hrows : r.rows = [[some (natText nPlayerID.toNat), data]]) :
    fillRow F.fmt r playerItem [some (natText nPlayerID.toNat), data] =
      (F.columnWrap (data.getD [])).map fun wrap =>
        (keyMessage nPlayerID).setField "data" (.message wrap) := by
  have hkey : playerItem.findFieldByName "player_id" = some
      { name := "player_id", type := .uint64, serializeType := .unknown, required := true } := rfl
  have hdata : playerItem.findFieldByName "data" = some dataField := rfl
  have hvalue : setFieldValue F.fmt
      { name := "player_id", type := .uint64, serializeType := .unknown, required := true }
      (natText nPlayerID.toNat) = some (.uint64 nPlayerID) := by
    simp [setFieldValue, setBasicTypeFieldValue, textNat_playerID]
  have hcell := Recordset.getData_of_single hrows
  unfold fillRow
  rw [hname]
  simp only [List.zipIdx_cons, List.zipIdx_nil, fillColumns, hcell, Nat.zero_add,
    List.getElem?_cons_zero, List.getElem?_cons_succ, Option.getD_some, Message.empty,
    Message.setField, hkey, hvalue, hdata, setFieldValue_data, Option.bind_eq_bind,
    Option.bind_some]
  cases F.columnWrap (data.getD []) with
  | none => rfl
  | some wrap => rfl

theorem query_select (nPlayerID : UInt64) :
    playerItemServer.query (.select "player_item" "player_id" nPlayerID) conn.mysql =
      (selected (((conn.mysql[nPlayerID]?).map fun data =>
        [some (natText nPlayerID.toNat), data]).toList), conn.mysql) := by
  cases h : conn.mysql[nPlayerID]? with
  | none => simp [playerItemServer, h]
  | some data => simp [playerItemServer, h]

/-- The rows that a select finds. -/
def rowsOf (nPlayerID : UInt64) (row : Option (Option Bytes)) : Recordset where
  fieldName := ["player_id", "data"]
  rows := (row.map fun data => [some (natText nPlayerID.toNat), data]).toList

/-- A select returns the rows it finds as a message. -/
theorem selectHandler_playerItem (F : ItemFormat) (conn : DbConnection PlayerItemTable)
    (nPlayerID : UInt64) :
    ((selectHandler F.env nPlayerID "player_item" conn).1,
      (selectHandler F.env nPlayerID "player_item" conn).2.1) =
      if (rowsOf nPlayerID conn.mysql[nPlayerID]?).rows = [] then (eDBRC_EmptyRecordset, none)
      else
        (fillNormalMessage F.fmt (rowsOf nPlayerID conn.mysql[nPlayerID]?) playerItem).elim
          (eDBRC_ProtobufError, none) fun m => (eDBRC_OK, some (.record m)) := by
  have hschema : F.env.schema.descriptor (getMessageNameByTableName "player_item") =
      some playerItem := rfl
  have hexecute : conn.execute F.env.client (.select "player_item" "player_id" nPlayerID) true =
      ((eMET_OK, some (rowsOf nPlayerID conn.mysql[nPlayerID]?)),
        selected (rowsOf nPlayerID conn.mysql[nPlayerID]?).rows,
        { conn with
          replies := conn.replies ++ [selected (rowsOf nPlayerID conn.mysql[nPlayerID]?).rows] }) := by
    unfold DbConnection.execute
    rw [show F.env.client = playerItemServer from rfl, query_select]
    rfl
  unfold selectHandler
  rw [hschema]
  dsimp only
  rw [if_neg (by decide), show playerItem.primaryKey = "player_id" from rfl, hexecute]
  dsimp only
  rw [if_neg (by decide)]
  split
  · rfl
  · rw [show F.env.fmt = F.fmt from rfl]
    cases fillNormalMessage F.fmt (rowsOf nPlayerID conn.mysql[nPlayerID]?) playerItem with
    | none => rfl
    | some m => rfl

/-- A load into a new module restores the items that the row stands for, or reports an
error. -/
theorem load_new (nPlayerID : UInt64) :
    F.load { nPlayerID } conn =
      (F.rowItems conn.mysql[nPlayerID]?).elim { nPlayerID, bLoadDataError := true }
        fun mapItem => { nPlayerID, mapItem } := by
  obtain ⟨hcode, hmessage⟩ := Prod.ext_iff.mp
    (selectHandler_playerItem F conn nPlayerID)
  dsimp only at hcode hmessage
  unfold load
  rw [hcode, hmessage]
  cases hrow : conn.mysql[nPlayerID]? with
  | none => rfl
  | some data =>
      have hne : (rowsOf nPlayerID (some data)).rows ≠ [] := List.cons_ne_nil _ _
      have hfill : fillNormalMessage F.fmt (rowsOf nPlayerID (some data)) playerItem =
          (F.columnWrap (data.getD [])).map fun wrap =>
            (keyMessage nPlayerID).setField "data" (.message wrap) :=
        fillRow_playerItem rfl rfl
      rw [if_neg hne, hfill, rowItems_some]
      cases F.columnWrap (data.getD []) with
      | none => rfl
      | some wrap =>
          rw [Option.map_some, Option.elim_some, Option.map_some, Option.elim_some]
          unfold onLoadData
          dsimp only
          rw [if_neg (by decide), wrap_setField]
          exact if_pos rfl

/-- The row of the player stands for the items after a load of it, and for no others. -/
theorem load_new_iff {nPlayerID : UInt64} {mapItem : StdMap UInt32 UInt32} :
    (F.load { nPlayerID } conn).mapItem = mapItem ∧
        (F.load { nPlayerID } conn).bLoadDataError = false ↔
      F.rowItems conn.mysql[nPlayerID]? = some mapItem := by
  rw [load_new]
  cases F.rowItems conn.mysql[nPlayerID]? with
  | none => simp
  | some loaded => simp

/-! ## Backups that restore -/

theorem toList_eq_nil_iff {mapItem : StdMap UInt32 UInt32} :
    mapItem.toList = [] ↔ mapItem = ∅ := by
  constructor
  · intro h
    have hfold := StdMap.foldl_insert_toList mapItem
    rw [h] at hfold
    exact hfold.symm
  · rintro rfl
    simp

/-- The text of a list of items stands for them. -/
theorem rowItems_text {mapItem : StdMap UInt32 UInt32} {text : Bytes} (hne : text ≠ [])
    (htext : F.fmt.textMessage dataField text = some (F.serialize mapItem.toList)) :
    F.rowItems (some (some text)) = some mapItem := by
  unfold rowItems columnWrap
  dsimp only
  rw [Option.getD_some, if_neg hne, htext, Option.map_some, F.items_serialize,
    StdMap.foldl_insert_toList]

/-- An item map is restored if it is not empty and fits the column, or if the row stands
for it already. -/
theorem restores_iff (F : ItemFormat) (item : CPlayerItemModule)
    (conn : DbConnection PlayerItemTable) :
    F.Restores item conn ↔
      (item.mapItem ≠ ∅ ∧ F.Fits item.mapItem) ∨
        F.rowItems conn.mysql[item.nPlayerID]? = some item.mapItem := by
  unfold Restores
  rw [load_new_iff]
  by_cases hempty : item.mapItem = ∅
  · -- the row keeps what it held, and a row without a text stands for no items
    rw [getElem?_onBackup_of_empty (toList_eq_nil_iff.mpr hempty)]
    have hrow : F.rowItems ((conn.mysql[item.nPlayerID]?).or (some none)) =
        F.rowItems conn.mysql[item.nPlayerID]? := by
      cases conn.mysql[item.nPlayerID]? with
      | none => simp [rowItems, columnWrap, F.items_nil]
      | some data => rfl
    rw [hrow]
    constructor
    · exact .inr
    · rintro (⟨hne, -⟩ | h)
      · exact absurd hempty hne
      · exact h
  · obtain ⟨text, hne, hmessage, htext⟩ := F.messageText_serialize item.mapItem.toList
    have hfits : F.Fits item.mapItem ↔ text.length ≤ maxText := by
      unfold Fits
      rw [hmessage]
      constructor
      · intro h
        exact h text rfl
      · rintro h text' ⟨⟩
        exact h
    rw [getElem?_onBackup_of_ne_empty (fun h => hempty (toList_eq_nil_iff.mp h)) hmessage, hfits]
    split
    · rename_i hle
      rw [rowItems_text hne htext]
      exact iff_of_true rfl (.inl ⟨hempty, hle⟩)
    · rename_i hlong
      constructor
      · exact .inr
      · rintro (⟨-, hle⟩ | h)
        · exact absurd hle hlong
        · exact h

end ItemFormat

end RealtimeEx.Game

import HttpServerApps.Common.Bytes
import HttpServerApps.Common.Places

namespace Chat

open Common

/-- A row of the table `users`. -/
structure UserRow where
  id : Int32
  username : Bytes
  password : Bytes
  deriving DecidableEq

/-- The table `users`: `id` is its key, `username` is UNIQUE. The collation compares the weights of two names. -/
structure Users (weight : Bytes → Bytes) where
  rows : List UserRow := []
  ids : (rows.map UserRow.id).Nodup := by decide
  names : (rows.map fun row => weight row.username).Nodup := by decide

namespace Users

variable {weight : Bytes → Bytes}

/-- `SELECT .. FROM users WHERE username = ?` -/
def select (users : Users weight) (username : Bytes) : Option UserRow :=
  users.rows.find? fun row => weight row.username = weight username

def byId (users : Users weight) (id : Int32) : Option UserRow := users.rows.find? fun row => row.id = id

def stored (users : Users weight) (id : Int32) : Option Bytes := (users.byId id).map UserRow.password

/-- `UPDATE users SET password = ? WHERE id = ?` -/
def setPassword (users : Users weight) (password : Bytes) (id : Int32) : Users weight where
  rows := users.rows.map fun row => if row.id = id then { row with password } else row
  ids := by
    have same :
        (UserRow.id ∘ fun row : UserRow => if row.id = id then { row with password } else row) = UserRow.id := by
      funext row
      simp only [Function.comp_apply]
      split <;> rfl
    rw [List.map_map, same]
    exact users.ids
  names := by
    have same : ((fun row : UserRow => weight row.username) ∘
        fun row : UserRow => if row.id = id then { row with password } else row) =
        fun row => weight row.username := by
      funext row
      simp only [Function.comp_apply]
      split <;> rfl
    rw [List.map_map, same]
    exact users.names

/-- `INSERT INTO users (username, password) VALUES (?, ?)` with the next id; `none` where a key is taken. -/
def insert (users : Users weight) (id : Int32) (username password : Bytes) : Option (Users weight) :=
  if free : (∀ row ∈ users.rows, row.id ≠ id) ∧ ∀ row ∈ users.rows, weight row.username ≠ weight username then
    some {
      rows := users.rows ++ [⟨id, username, password⟩]
      ids := by
        rw [List.map_append, List.nodup_append]
        refine ⟨users.ids, List.nodup_singleton _, ?_⟩
        intro old inOld new inNew
        rcases List.mem_map.mp inOld with ⟨row, there, rfl⟩
        rw [List.mem_singleton.mp inNew]
        exact free.1 row there
      names := by
        rw [List.map_append, List.nodup_append]
        refine ⟨users.names, List.nodup_singleton _, ?_⟩
        intro old inOld new inNew
        rcases List.mem_map.mp inOld with ⟨row, there, rfl⟩
        rw [List.mem_singleton.mp inNew]
        exact free.2 row there }
  else none

theorem select_some {users : Users weight} {username : Bytes} {row : UserRow}
    (found : users.select username = some row) : row ∈ users.rows ∧ weight row.username = weight username :=
  ⟨List.mem_of_find?_eq_some found, by simpa using List.find?_some found⟩

theorem select_eq {users : Users weight} {username : Bytes} {row : UserRow} (there : row ∈ users.rows)
    (same : weight row.username = weight username) : users.select username = some row :=
  find?_of_key users.names there same

theorem select_none {users : Users weight} {username : Bytes} :
    users.select username = none ↔ ∀ row ∈ users.rows, weight row.username ≠ weight username := by
  unfold select
  simp

theorem insert_absent {users : Users weight} {id : Int32} {username : Bytes} (fresh : ∀ row ∈ users.rows, row.id ≠ id)
    (absent : users.select username = none) (password : Bytes) :
    ∃ after, users.insert id username password = some after ∧
      after.select username = some ⟨id, username, password⟩ := by
  have free := And.intro fresh (select_none.mp absent)
  unfold insert
  rw [dif_pos free]
  exact ⟨_, rfl, select_eq (List.mem_append_right _ (List.mem_singleton_self _)) rfl⟩

theorem insert_taken {users : Users weight} {username : Bytes} {row : UserRow}
    (taken : users.select username = some row) (id : Int32) (password : Bytes) :
    users.insert id username password = none := by
  rcases select_some taken with ⟨there, same⟩
  unfold insert
  rw [dif_neg fun free => free.2 row there same]

theorem byId_eq {users : Users weight} {row : UserRow} (there : row ∈ users.rows) : users.byId row.id = some row :=
  find?_of_key users.ids there rfl

theorem stored_eq {users : Users weight} {row : UserRow} (there : row ∈ users.rows) :
    users.stored row.id = some row.password := by
  unfold stored
  rw [byId_eq there]
  rfl

theorem row_unique {users : Users weight} {row other : UserRow} (there : row ∈ users.rows)
    (otherThere : other ∈ users.rows) (same : row.id = other.id) : row = other :=
  List.inj_on_of_nodup_map users.ids there otherThere same

theorem mem_setPassword {users : Users weight} {row : UserRow} (there : row ∈ users.rows) (password : Bytes) :
    { row with password } ∈ (users.setPassword password row.id).rows :=
  List.mem_map.mpr ⟨row, there, if_pos rfl⟩

theorem mem_setPassword_other {users : Users weight} {row : UserRow} {id : Int32} (there : row ∈ users.rows)
    (other : row.id ≠ id) (password : Bytes) : row ∈ (users.setPassword password id).rows :=
  List.mem_map.mpr ⟨row, there, if_neg other⟩

end Users

end Chat

import Criteria.Config.Basic
import Criteria.Schema.Query

/-!
# Sample schemas

A schema of a blog and a shop with every kind of condition and relation, a configuration of the same
domain without code, and the two models that are there when no configuration can be loaded.
-/

namespace Criteria.Samples

variable {κ : Type}

/-- The condition that a column equals a value. -/
def equals (column : String) (value : Json) : Json := .object [(column, value)]

/-- The condition that a column equals the first argument. -/
def equalsArgument (column : String) : Json := equals column (.text "$0")

/-- The condition that a column is greater than a value. -/
def exceeds (column : String) (value : Json) : Json := .array [.text ">", .text column, value]

/-- A conjunction of conditions by their names. -/
def both (first second : String) : Json := .array [.text "and", .text first, .text second]

/-- A whole number. -/
def int (n : Int) : Json := .number (.int n)

/-- A schema with the given models, on Postgres. -/
def schemaOf (models : List (Model κ)) : Schema κ :=
  models.foldl Schema.withModel (Schema.new .postgres defaultMaxDepth)

/-- A blog and a shop. The code defines the condition that a product is cheaper than an amount. -/
def shop (cheaperThan : κ) : Schema κ :=
  schemaOf [
    ((((((((Model.new "Post" "posts").template "active" (equals "posts.status" (.text "active"))
      ).template "published" (equals "posts.status" (.text "published"))
      ).template "popular" (exceeds "posts.votes" (.text "$0"))
      ).template "featured" (both "published" "popular:100")
      ).template "loop" (.text "loop")
      ).relation "author" (.direct "Author" "id" "author_id")
      ).relation "authorName" (.direct "Pseudonym" "id" "pseudonym_id")
      ).relation "tags" ((Relation.direct "Tag" "id" "tag_id").viaTable "post_tags" "post_id" "id")
      |>.relation "broken" ⟨"Author", [], none⟩,
    (((Model.new "Author" "authors").template "name" (equalsArgument "authors.name")
      ).template "active" (equals "authors.active" (.bool true))
      ).relation "posts" (.direct "Post" "author_id" "id"),
    (Model.new "Comment" "comments").relation "authorName"
      (.direct "Pseudonym" "id" "pseudonym_id"),
    (Model.new "Pseudonym" "pseudonyms").template "verified"
      (equals "pseudonyms.verified" (.bool true)),
    ((((Model.new "Order" "orders").template "open" (equals "orders.status" (.text "open"))
      ).relation "items" (.direct "OrderItem" "order_id" "id")
      ).relation "products" ((Relation.direct "Product" "id" "product_id").via "items")
      ).relation "looseProducts"
        ⟨"Product", [⟨"id", "product_id"⟩], some (.table "order_items" [])⟩,
    Model.new "OrderItem" "order_items",
    (((Model.new "Product" "products").template "sku" (equalsArgument "products.sku")
      ).template "inStock" (exceeds "products.stock" (int 0))
      ).computed "cheaperThan" cheaperThan,
    (Model.new "Tag" "tags").template "named" (equalsArgument "tags.name")]

/-- The draft that a product is cheaper than the first argument, or than nothing. -/
def cheaperThan (args : List Json) : Draft :=
  .list [.name "<", .name "products.price", .literal (args.headD (int 0))]

/-- The code of the conditions of the shop. -/
inductive Code
  | cheaperThan

instance : Computed Code := ⟨fun .cheaperThan _ args => .ok (cheaperThan args)⟩

/-- The shop, with its code, under a limit. -/
def shopUpTo (limit : Nat) : Schema Code := { shop .cheaperThan with maxDepth := limit }

/-- The query over all orders of the shop. -/
def orders (limit : Nat) : Query Code :=
  ⟨shopUpTo limit, ((shopUpTo limit).models.get? "Order").get rfl, none⟩

/-- The query over all posts of the shop. -/
def shopPosts (limit : Nat) : Query Code :=
  ⟨shopUpTo limit, ((shopUpTo limit).models.get? "Post").get rfl, none⟩

/-- The query over all products of the shop. -/
def products (limit : Nat) : Query Code :=
  ⟨shopUpTo limit, ((shopUpTo limit).models.get? "Product").get rfl, none⟩

/-- The models that are there when no configuration can be loaded. -/
def builtin : Schema κ :=
  schemaOf [
    (((Model.new "Post" "posts").template "active" (equals "posts.status" (.text "active"))
      ).template "popular" (exceeds "posts.votes" (.text "$0"))
      ).relation "author" (.direct "Author" "id" "author_id"),
    (Model.new "Author" "authors").template "name" (equalsArgument "authors.name")]

/-- A relation over one pair of columns, as it is written in a configuration. -/
def link (model foreign own : String) : RelationConfig :=
  ⟨model, [(foreign, .text own)], none, none⟩

/-- A configuration of a blog and a shop. -/
def demo : Config where
  dialect := .postgres
  maxDepth := defaultMaxDepth
  models := .ofList [
    ("Post", {
      table := "posts"
      primaryKey := defaultPrimaryKey
      conditions := .ofList [
        ("active", equals "posts.status" (.text "active")),
        ("published", equals "posts.status" (.text "published")),
        ("popular", exceeds "posts.votes" (.text "$0")),
        ("featured", both "published" "popular:100"),
        ("recent", exceeds "posts.created_at" (.text "$0"))]
      relations := .ofList [
        ("author", link "Author" "id" "author_id"),
        ("comments", link "Comment" "post_id" "id"),
        ("tags", { link "Tag" "id" "tag_id" with
          viaTable := some ⟨"post_tags", [("post_id", .text "id")]⟩ })] }),
    ("Author", {
      table := "authors"
      primaryKey := defaultPrimaryKey
      conditions := .ofList [
        ("name", equalsArgument "authors.name"),
        ("active", equals "authors.active" (.bool true))]
      relations := .ofList [("posts", link "Post" "author_id" "id")] }),
    ("Comment", {
      table := "comments"
      primaryKey := defaultPrimaryKey
      conditions := .ofList [("flagged", equals "comments.flagged" (.bool true))]
      relations := .ofList [("post", link "Post" "id" "post_id")] }),
    ("Tag", {
      table := "tags"
      primaryKey := defaultPrimaryKey
      conditions := .ofList [("named", equalsArgument "tags.name")]
      relations := .empty }),
    ("Order", {
      table := "orders"
      primaryKey := defaultPrimaryKey
      conditions := .ofList [("open", equals "orders.status" (.text "open"))]
      relations := .ofList [
        ("items", link "OrderItem" "order_id" "id"),
        ("products", { link "Product" "id" "product_id" with via := some "items" })] }),
    ("OrderItem", ⟨"order_items", defaultPrimaryKey, .empty, .empty⟩),
    ("Product", {
      table := "products"
      primaryKey := defaultPrimaryKey
      conditions := .ofList [
        ("sku", equalsArgument "products.sku"),
        ("inStock", exceeds "products.stock" (int 0))]
      relations := .empty })]

end Criteria.Samples

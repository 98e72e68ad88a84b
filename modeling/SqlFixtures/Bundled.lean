import SqlFixtures.Document.Write
import SqlFixtures.Files.Tree

/-!
# Bundled cases

The cases that come with the library: templates that are supported, by the kind of statement, and
templates that must be refused.
-/

namespace SqlFixtures.Bundled

open Record (Case)

def inserts : List Case :=
  [⟨"insert_with_all_placeholders",
     "INSERT INTO t_order (order_id, user_id, status) VALUES (%s, %s, %s)", none⟩,
   ⟨"insert_with_partial_placeholders",
     "INSERT INTO t_order (order_id, user_id, status) VALUES (%s, %s, 'insert')", none⟩,
   ⟨"insert_with_percent_literal",
     "INSERT INTO t_discount (order_id, rate) VALUES (%s, '50%%')", none⟩]

def updates : List Case :=
  [⟨"update_with_alias",
     "UPDATE t_order AS o SET o.status = %s WHERE o.order_id = %s AND o.user_id = %s",
     some "MySQL,H2"⟩,
   ⟨"update_without_alias",
     "UPDATE t_order SET status = %s WHERE order_id = %s AND user_id = %s", none⟩,
   ⟨"delete_with_sharding_value",
     "DELETE FROM t_order WHERE order_id = %s AND user_id = %s AND status = %s", none⟩]

def selects : List Case :=
  [⟨"select_constant_without_table", "SELECT 1 as a", none⟩,
   ⟨"select_with_same_table_name_and_alias",
     "SELECT t_order.* FROM t_order t_order WHERE user_id = %s AND order_id = %s", none⟩,
   ⟨"select_with_equal_condition",
     "SELECT * FROM t_order WHERE user_id = %s AND order_id = %s", none⟩,
   ⟨"select_with_in_condition",
     "SELECT * FROM t_order WHERE order_id IN (%s, %s) ORDER BY order_id", none⟩,
   ⟨"select_with_between_condition",
     "SELECT * FROM t_order WHERE order_id BETWEEN %s AND %s ORDER BY order_id", none⟩,
   ⟨"select_with_like_escape",
     "SELECT * FROM t_order WHERE status LIKE 'init%%' AND user_id = %s", none⟩,
   ⟨"select_with_limit",
     "SELECT * FROM t_order WHERE user_id = %s ORDER BY order_id LIMIT %s",
     some "H2,MySQL,PostgreSQL"⟩,
   ⟨"select_with_rownum",
     "SELECT * FROM (SELECT o.*, ROWNUM rn FROM t_order o WHERE ROWNUM <= %s) WHERE rn > %s",
     some "Oracle"⟩,
   ⟨"select_with_top", "SELECT TOP(%s) * FROM t_order ORDER BY order_id", some "SQLServer"⟩]

def aggregates : List Case :=
  [⟨"select_count", "SELECT COUNT(*) AS orders_count FROM t_order WHERE user_id = %s", none⟩,
   ⟨"select_sum_group_by",
     "SELECT SUM(order_id) AS orders_sum, user_id FROM t_order GROUP BY user_id ORDER BY user_id",
     none⟩,
   ⟨"select_avg_having",
     "SELECT user_id, AVG(order_id) AS orders_avg FROM t_order GROUP BY user_id " ++
       "HAVING AVG(order_id) > %s", some "MySQL,PostgreSQL"⟩]

def refused : List Case :=
  [⟨"assert_select_into", "SELECT * INTO t_order_new FROM t_order", some "SQLServer"⟩,
   ⟨"assert_insert_select",
     "INSERT INTO t_order (order_id, user_id) SELECT order_id, user_id FROM t_order_item " ++
       "WHERE user_id = %s", none⟩,
   ⟨"assert_select_for_update",
     "SELECT * FROM t_order WHERE order_id = %s FOR UPDATE", some "MySQL,Oracle"⟩]

def document (cases : List Case) : Files.Tree := .file (Document.writeCases cases)

/-- The bundled root, with a directory for each category. -/
def files : Files.Tree :=
  .directory
    [("sql", .directory
      [("dml", .directory
        [("insert.xml", document inserts), ("update_delete.xml", document updates)]),
       ("dql", .directory
        [("select.xml", document selects), ("select_aggregate.xml", document aggregates)])]),
     ("unsupported_sql", .directory [("unsupported.xml", document refused)])]

end SqlFixtures.Bundled

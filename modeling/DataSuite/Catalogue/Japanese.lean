/-!
# The Japanese catalogue

The messages of the program in Japanese.  A name in braces behind a dollar sign stands for an
argument.
-/

namespace DataSuite
namespace Catalogue

/-- The messages in Japanese with their keys. -/
def japanese : List (String × String) :=
  [ ("cli-about", "宣言的な arrange/act/assert テストスイートをデータバックエンドに対して実行します"),
    ("cli-locale", "テストタイトルの表示言語 (既定: $CHALLENGE_LANGUAGE、次に LANG、最後に ja)"),
    ("cli-list", "各スイートのテストタイトルだけを一覧表示します"),
    ("cli-silent", "エラー以外を表示しません"),
    ("cli-no-color", "色付き出力を無効にします"),
    ("cli-verbose", "進行状況を表示します"),
    ("cli-hide-fails", "失敗したテストケースを表示しません"),
    ("cli-hide-passes", "成功したテストケースを表示しません"),
    ("available-tests-in", "\x7b$suite\x7d のテスト:"),
    ("test-list-item", "\x7b$index\x7d: \x7b$title\x7d"),
    ("info-version", "\x7b$name\x7d \x7b$version\x7d"),
    ("info-suite", "スイート \x7b$name\x7d: 初期化ステップ \x7b$installations\x7d 件、テストケース \x7b$tests\x7d 件"),
    ("info-all-finished",
      "全スイート終了: テストケース \x7b$total\x7d 件、成功 \x7b$passed\x7d 件、失敗 \x7b$failed\x7d 件"),
    ("info-installing", "\x7b$suite\x7d のデータベースを初期化しています (初期化ステップ \x7b$count\x7d 件)..."),
    ("info-suite-finished", "スイート \x7b$suite\x7d 終了: 成功 \x7b$passed\x7d 件、失敗 \x7b$failed\x7d 件"),
    ("info-cleanup", "\x7b$suite\x7d の後片付けをしています (\x7b$count\x7d 件)..."),
    ("debug-suite-loaded", "\x7b$file\x7d を読み込みました (テストケース \x7b$count\x7d 件)"),
    ("debug-directive", "実行中: \x7b$directive\x7d"),
    ("debug-directive-done", "結果セット \x7b$count\x7d 件"),
    ("debug-case-passed", "成功: \x7b$title\x7d"),
    ("warn-case-failed", "失敗: \x7b$title\x7d"),
    ("warn-cleanup-failed", "後片付けに失敗しました: \x7b$error\x7d"),
    ("error-installation-failed", "データベースの初期化に失敗したため、テストは実行されません: \x7b$error\x7d"),
    ("error-discover", "スイートファイルを収集できませんでした"),
    ("error-no-suites", "スイートファイルが見つかりません"),
    ("error-suite-load", "\x7b$file\x7d を読み込めませんでした: \x7b$error\x7d"),
    ("step-connect", "接続"),
    ("step-release", "接続の解放"),
    ("report-totals", "合計: \x7b$total\x7d、成功: \x7b$passed\x7d、失敗: \x7b$failed\x7d"),
    ("report-expectations", "検証: \x7b$total\x7d、成功: \x7b$passed\x7d、失敗: \x7b$failed\x7d"),
    ("failure-count-mismatch",
      "実行されたクエリの数が正しくありません: 検証 \x7b$expected\x7d 件に対し結果セット \x7b$actual\x7d 件"),
    ("failure-row-count", "\x7b$expected\x7d 行を期待しましたが \x7b$actual\x7d 行でした"),
    ("failure-cell",
      "\x7b$row\x7d 行目 \x7b$column\x7d 列: 期待値 \x7b$expected\x7d、実際 \x7b$actual\x7d"),
    ("failure-missing-column", "\x7b$row\x7d 行目: 列 \x7b$column\x7d がありません"),
    ("failure-extra-column", "\x7b$row\x7d 行目: 想定外の列 \x7b$column\x7d"),
    ("failure-column-order",
      "\x7b$row\x7d 行目: 列 [\x7b$expected\x7d] を期待しましたが [\x7b$actual\x7d] でした"),
    ("failure-unknown-column", "列 \x7b$column\x7d は結果にありません (存在する列: \x7b$available\x7d)"),
    ("failure-more-diffs", "... ほか \x7b$count\x7d 件の差分"),
    ("failure-full-scan", "実行計画が \x7b$table\x7d をフルスキャンしています: \x7b$detail\x7d"),
    ("failure-expected-nothing", "行がないことを期待しました"),
    ("expected-no-full-scan", "\x7b$table\x7d のフルスキャンなし"),
    ("invalid-expectation-for-empty", "このステップは結果セットを返さないため、検証は空でなければなりません"),
    ("invalid-expectation-after-load",
      "assert[\x7b$indexes\x7d] は CSV ロードの結果であり行を返さないため、検証は空でなければなりません"),
    ("invalid-fullscan-target", "noFullscan (\x7b$table\x7d) は実行計画に対してのみ検証できます"),
    ("invalid-phase", "スイートのフェーズが \x7b$actual\x7d です (\x7b$expected\x7d であるべきです)") ]

end Catalogue
end DataSuite
